import BotSentry.Text.CodePoint

/-!
# JSON values

Integers are unbounded and apart from floating point numbers, texts may hold lone surrogates, and an
object keeps its fields in the order of their first occurrence.
-/

namespace BotSentry

inductive Json where
  | null
  | bool (value : Bool)
  | int (value : Int)
  | float (value : Float)
  | str (value : Text)
  | arr (items : List Json)
  | obj (fields : List (Text × Json))
  deriving Inhabited

namespace Json

/-- Sets a field, in its old place if there is one. -/
def insertField (key : Text) (value : Json) : List (Text × Json) → List (Text × Json)
  | [] => [(key, value)]
  | (k, v) :: rest =>
    if k = key then (k, value) :: rest else (k, v) :: insertField key value rest

/-- The value of a field. -/
def field? (fields : List (Text × Json)) (name : String) : Option Json :=
  fields.lookup (Text.ofString name)

def ofString (s : String) : Json := .str (Text.ofString s)

/-- An object with the given fields. -/
def mkObj (fields : List (String × Json)) : Json :=
  .obj (fields.map fun (k, v) => (Text.ofString k, v))

/-- Whether a value counts as something: not null, false, zero or empty. -/
def isTruthy : Json → Bool
  | .null => false
  | .bool b => b
  | .int n => n != 0
  | .float x => x != 0.0
  | .str t => !t.isEmpty
  | .arr items => !items.isEmpty
  | .obj fields => !fields.isEmpty

/-- Blanks between the tokens of a document. -/
def isSpace (c : Char) : Bool := c = ' ' || c = '\t' || c = '\n' || c = '\r'

def isDigit (c : Char) : Bool := '0' ≤ c && c ≤ '9'

/-- The value of a hexadecimal digit. -/
def hexValue? (c : Char) : Option Nat :=
  if isDigit c then some (c.toNat - 0x30)
  else if 'a' ≤ c && c ≤ 'f' then some (c.toNat - 0x57)
  else if 'A' ≤ c && c ≤ 'F' then some (c.toNat - 0x37)
  else none

/-- The character that a backslash and one letter stand for. -/
def shortEscape? : Char → Option Char
  | '\x22' => some '\x22'
  | '\x5c' => some '\x5c'
  | '/' => some '/'
  | 'b' => some '\x08'
  | 'f' => some '\x0c'
  | 'n' => some '\n'
  | 'r' => some '\r'
  | 't' => some '\t'
  | _ => none

/-- The longest integer, in digits, that a reader takes. -/
def digitLimit : Nat := 4300

end Json

end BotSentry
