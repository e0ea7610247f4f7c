import BotSentry.Dataset.Document
import BotSentry.Dataset.Validation
import BotSentry.Detection.Engine
import BotSentry.Store.Cache

/-!
# The dataset in force

A repository starts from the built-in dataset, or from the cached one if there is one, and then holds
what synchronisation installs. Each installed dataset is cached; one that cannot be cached is in force
all the same.
-/

namespace BotSentry

open Schema

/-- The key of the cached dataset. -/
def Dataset.cacheKey : String := "spyglasses_patterns"

/-- What a cached value turns out to be. -/
inductive Dataset.Stored where
  | absent
  | invalid (issues : Nat)
  | found (dataset : Dataset)

/-- Reads a cached value; a dataset without patterns counts as absent. -/
def Dataset.ofStored : Option Bytes → Dataset.Stored
  | none | some [] => .absent
  | some bytes =>
    match Dataset.ofBytes bytes with
    | .issues l => .invalid l.length
    | .ok dataset => if dataset.patterns.isEmpty then .absent else .found dataset

/-- Why a dataset is not cached. -/
inductive CacheFault where
  | unencodable (fault : Text.EncodeFault)
  | outOfReach (reason : String)

def CacheFault.message : CacheFault → String
  | .unencodable fault => "Error serializing to JSON: UnicodeEncodeError: " ++ fault.message
  | .outOfReach reason => reason

namespace Cache

variable {τ : Type} [TimeScale τ]

/-- The cached dataset, unless the cache cannot be read at all. -/
def dataset (c : Cache τ) (now : τ) : Except String (Option Dataset × Cache τ × List Notice) :=
  match c.get Dataset.cacheKey now with
  | .error reason => .error reason
  | .ok (value, c) =>
    match Dataset.ofStored value with
    | .absent => .ok (none, c, [])
    | .invalid issues => .ok (none, c, [.badCache issues])
    | .found d => .ok (some d, c, [])

/-- Caches a dataset for some time. -/
def put (c : Cache τ) (d : Dataset) (ttl now : τ) : Except CacheFault (Cache τ) :=
  match d.encode with
  | .error fault => .error (.unencodable fault)
  | .ok bytes =>
    match c.set Dataset.cacheKey bytes ttl now with
    | .error reason => .error (.outOfReach reason)
    | .ok c => .ok c

/-- Caches a dataset if that can be done. -/
def keep (c : Cache τ) (d : Dataset) (ttl now : τ) : Cache τ × List Notice :=
  match c.put d ttl now with
  | .ok c => (c, [])
  | .error fault => (c, [.cacheWriteFailed fault.message])

end Cache

/-- The snapshot with another dataset in force. -/
def Snapshot.install (s : Snapshot) (d : Dataset) : Snapshot where
  dataset := d
  generation := s.generation + 1

/-- The dataset that a repository starts with. -/
def Snapshot.initial (cached : Option Dataset) : Snapshot where
  dataset := cached.getD Dataset.bootstrap

end BotSentry
