import BotSentry.Dataset.Basic
import BotSentry.Json.Writer

/-!
# Datasets as JSON

The stored form of a dataset and of its parts. Every field is written, under the name that checking
knows, and sets are written in order.
-/

namespace BotSentry

def Json.ofOption (t : Option Text) : Json := (t.map Json.str).getD .null

def BotPattern.toJson (p : BotPattern) : Json := .mkObj [
  ("pattern", .ofString p.pattern),
  ("type", .str p.kind),
  ("category", .str p.category),
  ("subcategory", .str p.subcategory),
  ("company", .ofOption p.company),
  ("is_compliant", .bool p.isCompliant),
  ("is_ai_model_trainer", .bool p.isModelTrainer),
  ("intent", .str p.intent),
  ("url", .ofOption p.url)]

def AiReferrer.toJson (r : AiReferrer) : Json := .mkObj [
  ("id", .str r.id),
  ("name", .str r.name),
  ("company", .ofOption r.company),
  ("url", .ofOption r.url),
  ("patterns", .arr (r.patterns.map .str)),
  ("description", .str r.description)]

def ScopeSet.toJson (s : ScopeSet) : Json := .arr (s.toList.map .str)

def BlockRules.toJson (r : BlockRules) : Json := .mkObj [
  ("block_ai_model_trainers", .bool r.blockModelTrainers),
  ("custom_blocks", r.blocks.toJson),
  ("custom_allows", r.allows.toJson)]

def DateTime.toJson (t : DateTime) : Json := .str (Text.ofChars t.storedChars)

def Dataset.toJson (d : Dataset) : Json := .mkObj [
  ("patterns", .arr (d.patterns.map (·.toJson))),
  ("ai_referrers", .arr (d.referrers.map (·.toJson))),
  ("settings", d.rules.toJson),
  ("version", .str d.version),
  ("synced_at", (d.syncedAt.map (·.toJson)).getD .null)]

/-- The stored bytes of a dataset. -/
def Dataset.encode (d : Dataset) : Except Text.EncodeFault Bytes := d.toJson.encode

end BotSentry
