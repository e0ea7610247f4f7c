import BotSentry.Dataset.Bootstrap
import BotSentry.Schema.Checked

/-!
# Checking datasets

The schemas of datasets and of their parts. Unknown fields are ignored, the rules of a property go by
two spellings, and a null stands for the default where a field has one and is no text to begin with.
-/

namespace BotSentry

open Schema

def BotPattern.ofFields (fields : Fields) : Checked BotPattern :=
  BotPattern.mk <$> required someString fields "pattern"
    <*> orDefault "unknown" "type"
    <*> orDefault "Unknown" "category"
    <*> orDefault "Unclassified" "subcategory"
    <*> withDefault none (optional text) fields "company"
    <*> withDefault false (nullIs false bool) fields "is_compliant"
    <*> withDefault false (nullIs false bool) fields "is_ai_model_trainer"
    <*> orDefault "unknown" "intent"
    <*> withDefault none (optional text) fields "url"
where
  orDefault (value name : String) : Checked Text :=
    let t := Text.ofString value
    withDefault t (nullIs t text) fields name

def BotPattern.ofJson : Json → Checked BotPattern := object "BotPattern" BotPattern.ofFields

def AiReferrer.ofFields (fields : Fields) : Checked AiReferrer :=
  AiReferrer.mk <$> required text fields "id"
    <*> required text fields "name"
    <*> withDefault none (optional text) fields "company"
    <*> withDefault none (optional text) fields "url"
    <*> withDefault [] (nullIs [] (items .notTuple text)) fields "patterns"
    <*> withDefault [] (nullIs [] text) fields "description"

def AiReferrer.ofJson : Json → Checked AiReferrer := object "AiReferrer" AiReferrer.ofFields

/-- A set of scopes. -/
def ScopeSet.ofJson (v : Json) : Checked ScopeSet := ScopeSet.ofList <$> items .notSet text v

def BlockRules.ofFields (fields : Fields) : Checked BlockRules :=
  BlockRules.mk <$> withAlias false (nullIs false bool) fields
      "blockAiModelTrainers" "block_ai_model_trainers"
    <*> withAlias .empty (nullIs .empty ScopeSet.ofJson) fields "customBlocks" "custom_blocks"
    <*> withAlias .empty (nullIs .empty ScopeSet.ofJson) fields "customAllows" "custom_allows"

def BlockRules.ofJson : Json → Checked BlockRules := object "PropertySettings" BlockRules.ofFields

def Dataset.ofFields (source : Source) (fields : Fields) : Checked Dataset :=
  Dataset.mk <$> required (items .notTuple BotPattern.ofJson) fields "patterns"
    <*> withDefault [] (items .notTuple AiReferrer.ofJson) fields "ai_referrers"
    <*> withDefault {} BlockRules.ofJson fields "settings"
    <*> withDefault defaultVersion text fields "version"
    <*> withDefault none (optional (dateTime source)) fields "synced_at"

def Dataset.ofJson (source : Source) : Json → Checked Dataset :=
  object "PatternDataset" (ofFields source)

/-- Reads a document and checks it. -/
def Schema.ofDocument {α : Type} (check : Json → Checked α) (document : List Char) : Checked α :=
  match Json.Strict.read document with
  | .ok v => check v
  | .error failure => .issue (.badDocument (failure.message document))

/-- The dataset that some bytes store. -/
def Dataset.ofBytes (bs : Bytes) : Checked Dataset :=
  match Text.Utf8.decodeChars? bs with
  | some document => Schema.ofDocument (ofJson .document) document
  | none => .issue (.badDocument Json.Strict.Fault.notText.message)

end BotSentry
