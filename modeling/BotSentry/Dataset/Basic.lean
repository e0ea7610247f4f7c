import BotSentry.Dataset.ScopeSet
import BotSentry.Time.DateTime

/-!
# Datasets

A dataset is what detection works from: patterns of bots, referrers from AI products, and the rules
of the property about blocking. It is never edited; synchronisation builds a new one.
-/

namespace BotSentry

/-- A bot and the pattern of its user agents. -/
structure BotPattern where
  pattern : String
  kind : Text
  category : Text
  subcategory : Text
  company : Option Text
  isCompliant : Bool
  isModelTrainer : Bool
  intent : Text
  url : Option Text
  deriving DecidableEq, Inhabited

/-- An AI product whose links show up as referrers from the given hosts. -/
structure AiReferrer where
  id : Text
  name : Text
  company : Option Text
  url : Option Text
  patterns : List Text
  description : Text
  deriving DecidableEq, Inhabited

/-- What a property blocks and allows beside the defaults. -/
structure BlockRules where
  blockModelTrainers : Bool := false
  blocks : ScopeSet := .empty
  allows : ScopeSet := .empty
  deriving DecidableEq, Inhabited

structure Dataset where
  patterns : List BotPattern
  referrers : List AiReferrer := []
  rules : BlockRules := {}
  version : Text
  /-- When it was synchronised; the built-in dataset never was. -/
  syncedAt : Option DateTime := none
  deriving DecidableEq, Inhabited

/-- The version of a dataset that names none. -/
def Dataset.defaultVersion : Text := Text.ofString "1.0.0"

end BotSentry
