import BotSentry.Dataset.Basic

/-!
# Blocking

A matched bot is judged by four scopes, from the pattern itself to its whole category. An allowed
scope wins over every blocked one; without either, only crawlers that train models are blocked, and
only where the property asks for it.
-/

namespace BotSentry

namespace BotPattern

def colon : Text := Text.ofString ":"

def patternScope (p : BotPattern) : Text :=
  Text.ofString "pattern:" ++ Text.ofString p.pattern

def categoryScope (p : BotPattern) : Text := Text.ofString "category:" ++ p.category

def subcategoryScope (p : BotPattern) : Text :=
  Text.ofString "subcategory:" ++ p.category ++ colon ++ p.subcategory

def kindScope (p : BotPattern) : Text :=
  Text.ofString "type:" ++ p.category ++ colon ++ p.subcategory ++ colon ++ p.kind

/-- The scopes of the groups that the pattern belongs to. -/
def groupScopes (p : BotPattern) : List Text :=
  [p.categoryScope, p.subcategoryScope, p.kindScope]

end BotPattern

/-- Whether a matched bot is blocked. -/
def BlockRules.blocksBot (rules : BlockRules) (p : BotPattern) : Bool :=
  if rules.allows.contains p.patternScope then false
  else if p.groupScopes.any rules.allows.contains then false
  else if rules.blocks.contains p.patternScope then true
  else if p.groupScopes.any rules.blocks.contains then true
  else rules.blockModelTrainers && p.isModelTrainer

end BotSentry
