import BotSentry.Json.Strict
import BotSentry.Time.Reading

/-!
# Checked values

Checking a JSON value against a schema either gives a value of the domain or all the issues found, in
the order of the schema. An issue has a path and a cause; the wording of some causes depends on
whether the value was given as such or as a document.
-/

namespace BotSentry.Schema

/-- Whether a value was given as such, or read from a document on the way. -/
inductive Source where
  | value
  | document
  deriving DecidableEq, Repr

/-- One step of the path to an issue. -/
inductive Step where
  | field (name : Text)
  | index (i : Nat)
  deriving DecidableEq

inductive Cause where
  | missing
  | extra
  | notString
  | notUnicode
  | emptyString
  | notBool
  | unreadableBool
  | notList
  | notTuple
  | notSet
  | notObject (name : String)
  | notDateTime
  | badDateTime (fault : DateTimeFault)
  | notInt
  | unreadableInt
  | fractionalInt
  | notFinite
  | intTooLong
  | tooSmall (least : Int)
  | tooLarge (most : Int)
  | notFloat
  | unreadableFloat
  | badKey
  | badDocument (message : String)

def Cause.message (source : Source) : Cause → String
  | .missing => "Field required"
  | .extra => "Extra inputs are not permitted"
  | .notString => "Input should be a valid string"
  | .notUnicode =>
    "Input should be a valid string, unable to parse raw data as a unicode string"
  | .emptyString => "String should have at least 1 character"
  | .notBool => "Input should be a valid boolean"
  | .unreadableBool => "Input should be a valid boolean, unable to interpret input"
  | .notList => if source = .value then "Input should be a valid list" else arrayWanted
  | .notTuple => if source = .value then "Input should be a valid tuple" else arrayWanted
  | .notSet => if source = .value then "Input should be a valid frozenset" else arrayWanted
  | .notObject name =>
    if source = .value then "Input should be a valid dictionary or instance of " ++ name
    else "Input should be an object"
  | .notDateTime => "Input should be a valid datetime"
  | .badDateTime (.dateTime fault) => "Input should be a valid datetime, " ++ fault.message
  | .badDateTime (.date fault) => "Input should be a valid datetime or date, " ++ fault.message
  | .notInt => "Input should be a valid integer"
  | .unreadableInt => "Input should be a valid integer, unable to parse string as an integer"
  | .fractionalInt => "Input should be a valid integer, got a number with a fractional part"
  | .notFinite => "Input should be a finite number"
  | .intTooLong => "Unable to parse input string as an integer, exceeded maximum size"
  | .tooSmall least => "Input should be greater than or equal to " ++ toString least
  | .tooLarge most => "Input should be less than or equal to " ++ toString most
  | .notFloat => "Input should be a valid number"
  | .unreadableFloat => "Input should be a valid number, unable to parse string as a number"
  | .badKey => "Value error, API key contains invalid characters."
  | .badDocument message => "Invalid JSON: " ++ message
where
  arrayWanted : String := "Input should be a valid array"

structure Issue where
  path : List Step
  cause : Cause

/-- A value, or the issues that stand against it. -/
inductive Checked (α : Type) where
  | ok (value : α)
  | issues (list : List Issue)

namespace Checked

variable {α β : Type}

def map (f : α → β) : Checked α → Checked β
  | ok a => ok (f a)
  | issues l => issues l

/-- Applies a function; the issues of both sides count. -/
def seq (f : Checked (α → β)) (a : Unit → Checked α) : Checked β :=
  match f, a () with
  | ok f, ok a => ok (f a)
  | ok _, issues l => issues l
  | issues l, ok _ => issues l
  | issues l, issues l' => issues (l ++ l')

instance : Applicative Checked where
  pure := ok
  map := map
  seq := seq

def issue (cause : Cause) : Checked α := issues [{ path := [], cause }]

/-- Places issues below a step. -/
def under (step : Step) : Checked α → Checked α
  | ok a => ok a
  | issues l => issues (l.map fun i => { i with path := step :: i.path })

/-- Continues with a value; its issues come first and alone. -/
def bind (a : Checked α) (f : α → Checked β) : Checked β :=
  match a with
  | ok a => f a
  | issues l => issues l

/-- All items of a list, with the issues of each below its index. -/
def all (f : Json → Checked α) : Nat → List Json → Checked (List α)
  | _, [] => ok []
  | i, v :: rest => List.cons <$> (f v).under (.index i) <*> all f (i + 1) rest

def toExcept : Checked α → Except (List Issue) α
  | ok a => .ok a
  | issues l => .error l

end Checked

def Step.toText : Step → Text
  | .field name => name
  | .index i => Text.ofString (toString i)

/-- The steps of a path with points between them. -/
def pathText : List Step → Text
  | [] => []
  | [s] => s.toText
  | s :: rest => s.toText ++ .char '.' :: pathText rest

/-- All issues, each as its path and its cause. -/
def report (source : Source) : List Issue → Text
  | [] => []
  | [i] => one i
  | i :: rest => one i ++ Text.ofString "; " ++ report source rest
where
  one (i : Issue) : Text := pathText i.path ++ Text.ofString (": " ++ i.cause.message source)

/-! ## Fields -/

abbrev Fields := List (Text × Json)

/-- A field that must be there. -/
def required {α : Type} (check : Json → Checked α) (fields : Fields) (name : String) : Checked α :=
  let step := Step.field (Text.ofString name)
  match Json.field? fields name with
  | some v => (check v).under step
  | none => Checked.under step (.issue .missing)

/-- A field with a default; a null is checked like any other value. -/
def withDefault {α : Type} (default : α) (check : Json → Checked α) (fields : Fields)
    (name : String) : Checked α :=
  match Json.field? fields name with
  | some v => (check v).under (.field (Text.ofString name))
  | none => .ok default

/-- A field that goes by two names, the first of which counts where both are there. -/
def withAlias {α : Type} (default : α) (check : Json → Checked α) (fields : Fields)
    (other name : String) : Checked α :=
  if (Json.field? fields other).isSome then withDefault default check fields other
  else withDefault default check fields name

/-- Takes a null for the default. -/
def nullIs {α : Type} (default : α) (check : Json → Checked α) : Json → Checked α
  | .null => .ok default
  | v => check v

/-- Takes a null for nothing. -/
def optional {α : Type} (check : Json → Checked α) : Json → Checked (Option α)
  | .null => .ok none
  | v => some <$> check v

/-! ## Values -/

def text : Json → Checked Text
  | .str t => .ok t
  | _ => .issue .notString

/-- A text without lone surrogates. -/
def string : Json → Checked String
  | .str t =>
    match t.toString? with
    | some s => .ok s
    | none => .issue .notUnicode
  | _ => .issue .notString

/-- A text of at least one character without lone surrogates. -/
def someString : Json → Checked String
  | .str t =>
    match t.toString? with
    | some s => if t.isEmpty then .issue .emptyString else .ok s
    | none => .issue .notUnicode
  | _ => .issue .notString

/-- The words for yes and no. -/
def boolWords : List (String × Bool) :=
  [("0", false), ("off", false), ("f", false), ("false", false), ("n", false), ("no", false),
    ("1", true), ("on", true), ("t", true), ("true", true), ("y", true), ("yes", true)]

def boolOfInt (n : Int) : Checked Bool :=
  if n = 0 then .ok false else if n = 1 then .ok true else .issue .unreadableBool

/-- The whole numbers that fit into 64 bits. -/
def isWord (n : Int) : Bool := DateTime.wholeLeast ≤ n && n ≤ DateTime.wholeMost

/-- A double without a fraction as a whole number of 64 bits. -/
def wholeFloat? (x : Float) : Option Int :=
  if x.floor == x && x > -Seconds.secondsLimit && x < Seconds.secondsLimit then
    some (Seconds.toInt x)
  else none

/-- A Boolean, one of the numbers 0 and 1, or a word for yes or no in any case. -/
def bool : Json → Checked Bool
  | .bool b => .ok b
  | .int n => if isWord n then boolOfInt n else .issue .notBool
  | .float x =>
    match wholeFloat? x with
    | some n => boolOfInt n
    | none => .issue .notBool
  | .str t =>
    match t.toString? with
    | none => .issue .notUnicode
    | some s =>
      match boolWords.lookup (String.ofList (s.toList.map Char.toLower)) with
      | some b => .ok b
      | none => .issue .unreadableBool
  | _ => .issue .notBool

/-- The items of an array; what else is there is `cause`. -/
def items {α : Type} (cause : Cause) (check : Json → Checked α) : Json → Checked (List α)
  | .arr l => Checked.all check 0 l
  | _ => .issue cause

def object {α : Type} (name : String) (check : Fields → Checked α) : Json → Checked α
  | .obj fields => check fields
  | _ => .issue (.notObject name)

def ofDateFault {α : Type} (fault : DateFault) : Checked α := .issue (.badDateTime (.dateTime fault))

/-- A date-time: a text or a number. -/
def dateTime (source : Source) : Json → Checked DateTime
  | .str t =>
    match t.toChars? with
    | none => .issue .notUnicode
    | some cs =>
      match DateTime.ofText cs with
      | .ok d => .ok d
      | .error fault => .issue (.badDateTime fault)
  | .int n =>
    if isWord n then
      match DateTime.ofNumber n 0 with
      | .ok d => .ok d
      | .error fault => ofDateFault fault
    else if source = .value && n.natAbs < Nat.pow 2 1024 then
      ofDateFault (if n < 0 then .beforeStart else .afterLimit)
    else .issue .notDateTime
  | .float x =>
    match DateTime.ofFloat x with
    | .ok d => .ok d
    | .error fault => ofDateFault fault
  | _ => .issue .notDateTime

end BotSentry.Schema
