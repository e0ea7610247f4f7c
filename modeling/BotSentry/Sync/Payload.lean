import BotSentry.Dataset.Validation

/-!
# The answer of the patterns service

A decoded answer becomes a dataset if it is an object with patterns that meets the schema of the
service, which has names of its own and lets nulls stand for what is absent.
-/

namespace BotSentry

open Schema

/-- Why an answer is no dataset. -/
inductive PayloadFault where
  | notObject
  | noPatterns
  | invalid (issue : Issue)

def PayloadFault.message : PayloadFault → String
  | .notObject => "Invalid or empty pattern response: expected a JSON object"
  | .noPatterns => "Invalid or empty pattern response: no patterns"
  | .invalid issue =>
    "Invalid pattern response at " ++ String.ofList ((pathText issue.path).filterMap (·.char?))
      ++ ": " ++ issue.cause.message .value

/-- The fields of an answer. -/
structure Payload where
  patterns : List BotPattern
  referrers : Option (List AiReferrer)
  rules : Option BlockRules
  version : Option Text

namespace Payload

def ofFields (fields : Fields) : Checked Payload :=
  Payload.mk <$> required (items .notList BotPattern.ofJson) fields "patterns"
    <*> withAlias none (optional (items .notList AiReferrer.ofJson)) fields
      "aiReferrers" "ai_referrers"
    <*> withAlias none (optional BlockRules.ofJson) fields "propertySettings" "property_settings"
    <*> withDefault none (optional text) fields "version"

/-- The dataset of an answer. An empty version counts as none. -/
def toDataset (p : Payload) (syncedAt : DateTime) : Dataset where
  patterns := p.patterns
  referrers := p.referrers.getD []
  rules := p.rules.getD {}
  version := match p.version with
    | none | some [] => Dataset.defaultVersion
    | some v => v
  syncedAt := some syncedAt

end Payload

/-- The dataset of a decoded answer that came at some time. Of several issues the first counts. -/
def Dataset.ofPayload (v : Json) (syncedAt : DateTime) : Except PayloadFault Dataset :=
  match v with
  | .obj fields =>
    if !((Json.field? fields "patterns").any (·.isTruthy)) then .error .noPatterns
    else match Payload.ofFields fields with
      | .ok p => .ok (p.toDataset syncedAt)
      | .issues (i :: _) => .error (.invalid i)
      | .issues [] => .error .noPatterns
  | _ => .error .notObject

end BotSentry
