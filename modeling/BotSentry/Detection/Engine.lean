import BotSentry.Detection.Result
import BotSentry.Net.Url
import BotSentry.Notice
import BotSentry.Pattern.Match
import BotSentry.Policy

/-!
# The detection engine

A user agent is searched for the patterns of bots, in the order of the dataset; if none matches, the
host of the referrer is compared with the AI products. Patterns are compiled once for each dataset that
comes into force, and a malformed one is reported and skipped.
-/

namespace BotSentry

/-- The dataset in force, and how many have been installed before it. -/
structure Snapshot where
  dataset : Dataset
  generation : Nat := 0

/-- The compiled patterns of a dataset, in its order; a malformed one is missing. -/
abbrev CompiledPatterns := List (Option Pattern)

/-- The engine remembers the patterns of the snapshot that it last compiled. -/
structure Engine where
  memo : Option (Nat × CompiledPatterns) := none

/-- What a call reports, what the engine remembers after it, and its result, unless a pattern was
refused for another reason than a malformed text. -/
structure Engine.Outcome where
  engine : Engine
  notices : List Notice
  result : Except Pattern.Refusal Detection

namespace Engine

/-- Compiles patterns up to one that is refused for another reason than a malformed text. -/
def compileAll : List BotPattern → List Notice × Except Pattern.Refusal CompiledPatterns
  | [] => ([], .ok [])
  | bot :: rest =>
    match Pattern.ofString bot.pattern with
    | .ok compiled =>
      let (notices, others) := compileAll rest
      (notices, others.map (some compiled :: ·))
    | .error (.malformed fault position) =>
      let reason := fault.describe bot.pattern.toList position
      let (notices, others) := compileAll rest
      (.badPattern bot.pattern reason :: notices, others.map (none :: ·))
    | .error refusal => ([], .error refusal)

/-- The compiled patterns of a snapshot. -/
def compiled (engine : Engine) (snapshot : Snapshot) :
    Engine × List Notice × Except Pattern.Refusal CompiledPatterns :=
  let fresh :=
    match compileAll snapshot.dataset.patterns with
    | (notices, .ok patterns) =>
      ({ memo := some (snapshot.generation, patterns) }, notices, .ok patterns)
    | (notices, .error refusal) => (engine, notices, .error refusal)
  match engine.memo with
  | some (generation, patterns) =>
    if generation = snapshot.generation then (engine, [], .ok patterns) else fresh
  | none => fresh

/-- The first bot whose pattern occurs in a user agent. -/
def firstBot (userAgent : String) : List BotPattern → CompiledPatterns → Option BotPattern
  | bot :: bots, pattern :: patterns =>
    if pattern.any (·.occursIn userAgent) then some bot else firstBot userAgent bots patterns
  | _, _ => none

def botDetection (dataset : Dataset) (bot : BotPattern) : Detection :=
  .bot bot (dataset.rules.blocksBot bot) (some (Text.ofString bot.pattern))

/-- The first pattern of a referrer that is not empty and occurs in a host. -/
def firstHostPattern (host : Text) (referrer : AiReferrer) : Option Text :=
  referrer.patterns.find? fun p => !p.isEmpty && Text.occursIn p host

/-- The AI product that a referrer leads back to. -/
def referrerDetection (dataset : Dataset) (referrer : String) : Detection :=
  let host := Text.ofString (referrerHost referrer)
  let found := dataset.referrers.findSome? fun r =>
    (firstHostPattern host r).map fun p => Detection.referrer r (some p)
  found.getD .none

/-- Looks for a bot. -/
def detectBot (engine : Engine) (snapshot : Snapshot) (userAgent : String) : Outcome :=
  if userAgent.isEmpty then { engine, notices := [], result := .ok .none }
  else
    let (engine, notices, patterns) := engine.compiled snapshot
    let result := patterns.map fun patterns =>
      match firstBot userAgent snapshot.dataset.patterns patterns with
      | some bot => botDetection snapshot.dataset bot
      | none => .none
    { engine, notices, result }

/-- Looks for an AI product behind a referrer. -/
def detectReferrer (snapshot : Snapshot) (referrer : String) : Detection :=
  if referrer.isEmpty then .none else referrerDetection snapshot.dataset referrer

/-- Looks for a bot first, and then for an AI product. -/
def detect (engine : Engine) (snapshot : Snapshot) (userAgent referrer : String) : Outcome :=
  let outcome := engine.detectBot snapshot userAgent
  match outcome.result with
  | .ok .none => { outcome with result := .ok (detectReferrer snapshot referrer) }
  | _ => outcome

end Engine

end BotSentry
