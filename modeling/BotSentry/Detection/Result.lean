import BotSentry.Dataset.Document

/-!
# Detections

What is found out about one request: nothing, a bot, or a visitor sent by an AI product. Only a bot can
be blocked.
-/

namespace BotSentry

inductive SourceKind where
  | none
  | bot
  | referrer
  deriving DecidableEq, Repr

namespace SourceKind

def name : SourceKind → String
  | .none => "none"
  | .bot => "bot"
  | .referrer => "ai_referrer"

def ofName? (s : String) : Option SourceKind :=
  [SourceKind.none, .bot, .referrer].find? (·.name == s)

end SourceKind

inductive Detection where
  | none
  | bot (info : BotPattern) (blocked : Bool) (pattern : Option Text)
  | referrer (info : AiReferrer) (pattern : Option Text)
  deriving DecidableEq, Inhabited

/-- What a detection is about. -/
inductive Detection.Info where
  | bot (info : BotPattern)
  | referrer (info : AiReferrer)

/-- Parts that make no detection. -/
inductive DetectionFault where
  | noneWithMatch
  | botWithoutInfo
  | referrerBlocked
  | referrerWithoutInfo
  deriving DecidableEq, Repr

def DetectionFault.message : DetectionFault → String
  | .noneWithMatch => "A \x27none\x27 result carries no match"
  | .botWithoutInfo => "A bot result needs BotPattern info"
  | .referrerBlocked => "AI referrers are never blocked"
  | .referrerWithoutInfo => "An ai_referrer result needs AiReferrer info"

namespace Detection

/-- A detection from its parts. -/
def ofParts (kind : SourceKind) (blocked : Bool) (pattern : Option Text) (info : Option Info) :
    Except DetectionFault Detection :=
  match kind with
  | .none =>
    if blocked || pattern.isSome || info.isSome then .error .noneWithMatch else .ok .none
  | .bot =>
    match info with
    | some (.bot b) => .ok (.bot b blocked pattern)
    | _ => .error .botWithoutInfo
  | .referrer =>
    if blocked then .error .referrerBlocked
    else match info with
      | some (.referrer r) => .ok (.referrer r pattern)
      | _ => .error .referrerWithoutInfo

def kind : Detection → SourceKind
  | .none => .none
  | .bot .. => .bot
  | .referrer .. => .referrer

def detected (d : Detection) : Bool := d.kind != .none

def blocked : Detection → Bool
  | .bot _ b _ => b
  | _ => false

/-- The pattern that matched. -/
def pattern : Detection → Option Text
  | .none => Option.none
  | .bot _ _ p => p
  | .referrer _ p => p

def botInfo : Detection → Option BotPattern
  | .bot b _ _ => some b
  | _ => Option.none

def referrerInfo : Detection → Option AiReferrer
  | .referrer r _ => some r
  | _ => Option.none

def toJson (d : Detection) : Json := .mkObj [
  ("source_type", .ofString d.kind.name),
  ("should_block", .bool d.blocked),
  ("matched_pattern", .ofOption d.pattern),
  ("info", match d with
    | .none => .null
    | .bot b _ _ => b.toJson
    | .referrer r _ => r.toJson)]

end Detection

end BotSentry
