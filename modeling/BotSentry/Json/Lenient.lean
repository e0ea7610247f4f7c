import BotSentry.Json.Basic
import BotSentry.Decimal.Reading
import BotSentry.Text.Encoding

/-!
# The lenient reader

Reads a document in any of the usual encodings. It takes `NaN` and infinities, lone surrogates in
strings, and objects that repeat a name, whose last value counts. A fault names the place in
characters. Documents that nest too deeply are not read to their end.
-/

namespace BotSentry.Json

namespace Lenient

inductive Fault where
  | expectingValue
  | expectingName
  | expectingColon
  | expectingComma
  | unterminatedString
  | controlCharacter
  | invalidEscape
  | invalidHexEscape
  | extraData
  deriving DecidableEq, Repr

def Fault.message : Fault → String
  | .expectingValue => "Expecting value"
  | .expectingName => "Expecting property name enclosed in double quotes"
  | .expectingColon => "Expecting \x27:\x27 delimiter"
  | .expectingComma => "Expecting \x27,\x27 delimiter"
  | .unterminatedString => "Unterminated string starting at"
  | .controlCharacter => "Invalid control character at"
  | .invalidEscape => "Invalid \x5cescape"
  | .invalidHexEscape => "Invalid \x5cuXXXX escape"
  | .extraData => "Extra data"

/-- Why a document is no JSON; a fault carries the number of code points that are left there. -/
inductive Failure where
  | fault (fault : Fault) (left : Nat)
  | numberTooLong (digits : Nat)
  | tooDeep (kind : String)
  deriving Repr

def fail {α : Type} (fault : Fault) (rest : Text) : Except Failure α :=
  .error (.fault fault rest.length)

def skipSpace : Text → Text
  | .char c :: rest => if isSpace c then skipSpace rest else .char c :: rest
  | rest => rest

/-- The value of four hexadecimal digits. -/
def hexFour? : Text → Option Nat
  | .char a :: .char b :: .char c :: .char d :: _ => do
    return (((← hexValue? a) * 16 + (← hexValue? b)) * 16 + (← hexValue? c)) * 16
      + (← hexValue? d)
  | _ => none

/-- The code point of an escape whose letter `u` is the first of `rest`, and what follows. A high
surrogate takes a low one that follows as an escape of its own. At least one code point has to
follow the digits. -/
def hexEscape (rest : Text) : Except Failure (CodePoint × Text) := do
  let digits := rest.drop 1
  if digits.length < 5 then fail .invalidHexEscape rest
  let some unit := hexFour? digits | fail .invalidHexEscape rest
  let after := digits.drop 4
  let alone := (CodePoint.ofNat? unit).getD default
  if 0xD800 ≤ unit && unit < 0xDC00 && 7 ≤ after.length then
    match after with
    | .char '\x5c' :: .char 'u' :: _ =>
      let some low := hexFour? (after.drop 2) | fail .invalidHexEscape (after.drop 1)
      if 0xDC00 ≤ low && low < 0xE000 then
        let joined := 0x10000 + (unit - 0xD800) * 0x400 + (low - 0xDC00)
        return ((CodePoint.ofNat? joined).getD default, after.drop 6)
      return (alone, after)
    | _ => return (alone, after)
  return (alone, after)

/-- A string, from behind its opening quote; `opening` begins with the quote. -/
def string (opening : Text) : Nat → Text → Text → Except Failure (Text × Text)
  | 0, _, _ | _, _, [] => fail .unterminatedString opening
  | fuel + 1, acc, c :: rest =>
    match c with
    | .char '\x22' => .ok (acc.reverse, rest)
    | .char '\x5c' =>
      match rest with
      | [] => fail .unterminatedString opening
      | .char 'u' :: _ => do
        let (code, after) ← hexEscape rest
        string opening fuel (code :: acc) after
      | .char e :: after =>
        match shortEscape? e with
        | some d => string opening fuel (.char d :: acc) after
        | none => fail .invalidEscape (c :: rest)
      | _ => fail .invalidEscape (c :: rest)
    | .char d =>
      if d.toNat < 0x20 then fail .controlCharacter (c :: rest)
      else string opening fuel (c :: acc) rest
    | .surrogate _ => string opening fuel (c :: acc) rest

def takeDigits : Text → List Char × Text
  | .char c :: rest =>
    if isDigit c then
      let (ds, after) := takeDigits rest
      (c :: ds, after)
    else ([], .char c :: rest)
  | rest => ([], rest)

/-- The digits after a point, if the text begins with both. -/
def fractionPart (t : Text) : Option (List Char) × Text :=
  match t with
  | .char '.' :: rest =>
    match takeDigits rest with
    | ([], _) => (none, t)
    | (ds, after) => (some ds, after)
  | _ => (none, t)

/-- The exponent at the start of a text, if there is one with digits. -/
def exponentPart (t : Text) : Option Int × Text :=
  let scan (rest : Text) (sign : Int) : Option Int × Text :=
    match takeDigits rest with
    | ([], _) => (none, t)
    | (ds, after) => (some (sign * Decimal.ofDigits ds), after)
  match t with
  | .char 'e' :: rest | .char 'E' :: rest =>
    match rest with
    | .char '-' :: rest => scan rest (-1)
    | .char '+' :: rest => scan rest 1
    | _ => scan rest 1
  | _ => (none, t)

/-- A number; `start` is the text from its sign on. -/
def number (start : Text) : Except Failure (Json × Text) := do
  let (negative, unsigned) := match start with
    | .char '-' :: rest => (true, rest)
    | _ => (false, start)
  let (whole, rest) ← match unsigned with
    | .char '0' :: rest => pure (['0'], rest)
    | _ =>
      match takeDigits unsigned with
      | ([], _) => fail .expectingValue start
      | parts => pure parts
  let (fraction, rest) := fractionPart rest
  let (exponent, rest) := exponentPart rest
  match fraction, exponent with
  | none, none =>
    if digitLimit < whole.length then throw (.numberTooLong whole.length)
    let n : Int := Decimal.ofDigits whole
    return (.int (if negative then -n else n), rest)
  | _, _ =>
    let d := Decimal.ofParts negative whole (fraction.getD []) (exponent.getD 0)
    return (.float d.toFloat, rest)

/-- The named values. -/
def names : List (String × Json) :=
  [("null", .null), ("true", .bool true), ("false", .bool false), ("NaN", .float (0.0 / 0.0)),
    ("Infinity", .float (1.0 / 0.0)), ("-Infinity", .float (-1.0 / 0.0))]

/-- The named value at the start of a text. -/
def named? (t : Text) : Option (Json × Text) :=
  names.findSome? fun (name, v) =>
    let n := Text.ofString name
    if n.isPrefixOf t then some (v, t.drop n.length) else none

mutual

/-- The value at the start of a text, which may hold `room` arrays and objects inside each other. -/
def value : Nat → Nat → Text → Except Failure (Json × Text)
  | 0, _, t => fail .expectingValue t
  | fuel + 1, room, t =>
    match t with
    | [] => fail .expectingValue t
    | .char '\x22' :: rest => do
      let (s, rest) ← string t rest.length [] rest
      return (.str s, rest)
    | .char '\x7b' :: rest =>
      match room with
      | 0 => .error (.tooDeep "object")
      | room + 1 =>
        match skipSpace rest with
        | .char '\x7d' :: rest => return (.obj [], rest)
        | rest => members fuel room rest []
    | .char '[' :: rest =>
      match room with
      | 0 => .error (.tooDeep "array")
      | room + 1 =>
        match skipSpace rest with
        | .char ']' :: rest => return (.arr [], rest)
        | rest => elements fuel room rest []
    | _ =>
      match named? t with
      | some r => return r
      | none => number t

/-- The fields of an object through its closing brace. -/
def members : Nat → Nat → Text → List (Text × Json) → Except Failure (Json × Text)
  | 0, _, t, _ => fail .expectingName t
  | fuel + 1, room, t, fields =>
    match t with
    | .char '\x22' :: rest => do
      let (key, rest) ← string t rest.length [] rest
      match skipSpace rest with
      | .char ':' :: rest =>
        let (v, rest) ← value fuel room (skipSpace rest)
        let fields := insertField key v fields
        match skipSpace rest with
        | .char '\x7d' :: rest => return (.obj fields, rest)
        | .char ',' :: rest => members fuel room (skipSpace rest) fields
        | rest => fail .expectingComma rest
      | rest => fail .expectingColon rest
    | _ => fail .expectingName t

/-- The items of an array through its closing bracket, after the reversed `items`. -/
def elements : Nat → Nat → Text → List Json → Except Failure (Json × Text)
  | 0, _, t, _ => fail .expectingValue t
  | fuel + 1, room, t, items => do
    let (v, rest) ← value fuel room t
    match skipSpace rest with
    | .char ']' :: rest => return (.arr (v :: items).reverse, rest)
    | .char ',' :: rest => elements fuel room (skipSpace rest) (v :: items)
    | rest => fail .expectingComma rest

end

def Failure.message (document : Text) : Failure → String
  | .fault cause left =>
    let place := document.length - left
    let before := document.take place
    let newline : CodePoint := .char '\n'
    let column := (before.reverse.takeWhile (· != newline)).length + 1
    cause.message ++ ": line " ++ toString (before.count newline + 1) ++ " column "
      ++ toString column ++ " (char " ++ toString place ++ ")"
  | .numberTooLong digits =>
    "Exceeds the limit (" ++ toString digitLimit
      ++ " digits) for integer string conversion: value has " ++ toString digits
      ++ " digits; use sys.set_int_max_str_digits() to increase the limit"
  | .tooDeep kind =>
    "maximum recursion depth exceeded while decoding a JSON " ++ kind ++ " from a unicode string"

/-- How many arrays and objects inside each other a document may hold. -/
def depthLimit : Nat := 970

/-- Reads a whole text. -/
def read (t : Text) : Except Failure Json := do
  let (v, rest) ← value (2 * t.length + 2) depthLimit (skipSpace t)
  match skipSpace rest with
  | [] => return v
  | rest => fail .extraData rest

end Lenient

/-- Why some bytes are no document. -/
inductive DocumentFault where
  | encoding (fault : Text.DecodeFault)
  | text (document : Text) (failure : Lenient.Failure)

namespace DocumentFault

def message : DocumentFault → String
  | encoding f => f.message
  | text document failure => failure.message document

/-- Whether reading stopped because the document nests too deeply. -/
def isTooDeep : DocumentFault → Bool
  | text _ (.tooDeep _) => true
  | _ => false

end DocumentFault

/-- Reads a document. -/
def ofDocument (bs : Bytes) : Except DocumentFault Json :=
  match Text.Encoding.decode bs with
  | .error fault => .error (.encoding fault)
  | .ok t => (Lenient.read t).mapError (.text t)

end BotSentry.Json
