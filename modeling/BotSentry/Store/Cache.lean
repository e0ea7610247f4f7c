import BotSentry.Text.Utf8
import BotSentry.Time.Scale

/-!
# The cache

Values under keys, each with a time at which it expires. An expired value is forgotten when it is
asked for. The memory behind a cache can be out of reach; a store on its own never is.
-/

namespace BotSentry

structure Store.Entry (τ : Type) where
  value : Bytes
  expires : τ
  deriving DecidableEq

/-- The entries that are kept, one for each key. -/
structure Store (τ : Type) where
  entries : List (String × Store.Entry τ) := []
  deriving DecidableEq

namespace Store

variable {τ : Type} [TimeScale τ]

def empty : Store τ := {}

/-- The entry that is kept under a key, expired or not. -/
def find? (s : Store τ) (key : String) : Option (Entry τ) := s.entries.lookup key

def erase (s : Store τ) (key : String) : Store τ := ⟨s.entries.filter (·.1 != key)⟩

/-- The value of a key, and the store without it if it has expired. -/
def get (s : Store τ) (key : String) (now : τ) : Option Bytes × Store τ :=
  match s.find? key with
  | none => (none, s)
  | some entry => if TimeScale.le entry.expires now then (none, s.erase key) else (some entry.value, s)

/-- Keeps a value for some time. -/
def set (s : Store τ) (key : String) (value : Bytes) (ttl now : τ) : Store τ :=
  ⟨(key, { value, expires := TimeScale.add now ttl }) :: (s.erase key).entries⟩

end Store

/-- A store that can be out of reach for reading or for writing, for a reason. -/
structure Cache (τ : Type) where
  store : Store τ := {}
  noReading : Option String := none
  noWriting : Option String := none
  deriving DecidableEq

namespace Cache

variable {τ : Type} [TimeScale τ]

def get (c : Cache τ) (key : String) (now : τ) : Except String (Option Bytes × Cache τ) :=
  match c.noReading with
  | some reason => .error reason
  | none =>
    let (value, store) := c.store.get key now
    .ok (value, { c with store })

def set (c : Cache τ) (key : String) (value : Bytes) (ttl now : τ) : Except String (Cache τ) :=
  match c.noWriting with
  | some reason => .error reason
  | none => .ok { c with store := c.store.set key value ttl now }

end Cache

end BotSentry
