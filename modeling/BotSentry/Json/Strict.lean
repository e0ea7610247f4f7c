import BotSentry.Json.Basic
import BotSentry.Decimal.Reading
import BotSentry.Text.Utf8

/-!
# The strict reader

Reads a document in UTF-8. Strings hold no lone surrogates, and containers nest at most 200 deep. A
fault names the place in bytes.
-/

namespace BotSentry.Json

namespace Strict

inductive Fault where
  | endOfList
  | endOfObject
  | endOfString
  | endOfValue
  | expectedColon
  | expectedCommaOrBracket
  | expectedCommaOrBrace
  | expectedName
  | expectedValue
  | invalidEscape
  | invalidNumber
  | numberOutOfRange
  | controlCharacter
  | keyNotString
  | loneSurrogate
  | trailingComma
  | trailingCharacters
  | endOfHexEscape
  | tooDeep
  | notText
  deriving DecidableEq, Repr

def Fault.message : Fault → String
  | .endOfList => "EOF while parsing a list"
  | .endOfObject => "EOF while parsing an object"
  | .endOfString => "EOF while parsing a string"
  | .endOfValue => "EOF while parsing a value"
  | .expectedColon => "expected \x60:\x60"
  | .expectedCommaOrBracket => "expected \x60,\x60 or \x60]\x60"
  | .expectedCommaOrBrace => "expected \x60,\x60 or \x60\x7d\x60"
  | .expectedName => "expected ident"
  | .expectedValue => "expected value"
  | .invalidEscape => "invalid escape"
  | .invalidNumber => "invalid number"
  | .numberOutOfRange => "number out of range"
  | .controlCharacter =>
    "control character (\x5cu0000-\x5cu001F) found while parsing a string"
  | .keyNotString => "key must be a string"
  | .loneSurrogate => "lone leading surrogate in hex escape"
  | .trailingComma => "trailing comma"
  | .trailingCharacters => "trailing characters"
  | .endOfHexEscape => "unexpected end of hex escape"
  | .tooDeep => "recursion limit exceeded"
  | .notText => "invalid unicode code point"

/-- A fault, and the number of characters that are left there. -/
structure Failure where
  fault : Fault
  left : Nat
  deriving Repr

def fail {α : Type} (fault : Fault) (rest : List Char) : Except Failure α :=
  .error { fault, left := rest.length }

/-- The greatest number of containers around a value. -/
def depthLimit : Nat := 200

def skipSpace : List Char → List Char
  | c :: rest => if isSpace c then skipSpace rest else c :: rest
  | [] => []

/-- Whether a text has at least `n` bytes. -/
def hasBytes (n : Nat) (t : List Char) : Bool :=
  n ≤ Text.Utf8.size (t.take n)

/-- The value of the four hexadecimal digits at the start of a text, and what follows. -/
def hexFour (t : List Char) : Except Failure (Nat × List Char) :=
  let rec digits : Nat → Nat → List Char → Except Failure (Nat × List Char)
    | 0, value, rest => .ok (value, rest)
    | n + 1, value, c :: rest =>
      match hexValue? c with
      | some d => digits n (value * 16 + d) rest
      | none => fail .invalidEscape (c :: rest)
    | _ + 1, _, [] => fail .endOfString []
  if hasBytes 4 t then digits 4 0 t else fail .endOfString []

/-- The character of an escape, from behind its letter `u`. A fault in the digits' sense is placed
at their last one. -/
def hexEscape (t : List Char) : Except Failure (Char × List Char) := do
  let (unit, after) ← hexFour t
  let lastDigit := t.drop 3
  if 0xDC00 ≤ unit && unit < 0xE000 then fail .loneSurrogate lastDigit
  else if 0xD800 ≤ unit && unit < 0xDC00 then
    match after with
    | '\x5c' :: 'u' :: rest =>
      let (low, after) ← hexFour rest
      if 0xDC00 ≤ low && low < 0xE000 then
        return (Char.ofNat (0x10000 + (unit - 0xD800) * 0x400 + (low - 0xDC00)), after)
      fail .loneSurrogate (rest.drop 3)
    | ['\x5c'] | [] => fail .endOfString []
    | '\x5c' :: rest => fail .endOfHexEscape rest
    | rest => fail .endOfHexEscape rest
  else return (Char.ofNat unit, after)

/-- A string, from behind its opening quote, after the reversed characters `acc`. -/
def string : Nat → List Char → List Char → Except Failure (List Char × List Char)
  | 0, _, _ | _, _, [] => fail .endOfString []
  | fuel + 1, acc, c :: rest =>
    match c with
    | '\x22' => .ok (acc.reverse, rest)
    | '\x5c' =>
      match rest with
      | [] => fail .endOfString []
      | 'u' :: rest => do
        let (d, after) ← hexEscape rest
        string fuel (d :: acc) after
      | e :: after =>
        match shortEscape? e with
        | some d => string fuel (d :: acc) after
        | none => fail .invalidEscape rest
    | _ =>
      if c.toNat < 0x20 then fail .controlCharacter (c :: rest) else string fuel (c :: acc) rest

/-- Takes the letters `name`, after a first one. -/
def named (v : Json) : List Char → List Char → Except Failure (Json × List Char)
  | [], rest => .ok (v, rest)
  | _ :: _, [] => fail .endOfValue []
  | a :: name, c :: rest =>
    if a = c then named v name rest else fail .expectedName (c :: rest)

def takeDigits (t : List Char) : List Char × List Char :=
  (t.takeWhile isDigit, t.dropWhile isDigit)

/-- Digits, of which there must be one. -/
def someDigits (t : List Char) : Except Failure (List Char × List Char) :=
  match t with
  | [] => fail .endOfValue []
  | c :: _ => if isDigit c then .ok (takeDigits t) else fail .invalidNumber t

/-- An exponent, if the text begins with one. -/
def exponentPart (t : List Char) : Except Failure (Option Int × List Char) := do
  match t with
  | 'e' :: rest | 'E' :: rest =>
    match rest with
    | '-' :: rest =>
      let (ds, rest) ← someDigits rest
      return (some (-(Decimal.ofDigits ds : Int)), rest)
    | '+' :: rest =>
      let (ds, rest) ← someDigits rest
      return (some (Decimal.ofDigits ds), rest)
    | _ =>
      let (ds, rest) ← someDigits rest
      return (some (Decimal.ofDigits ds), rest)
  | _ => return (none, t)

/-- The digits before the point: a zero stands alone. -/
def wholePart (t : List Char) : Except Failure (List Char × List Char) :=
  match t with
  | [] => fail .endOfValue []
  | '0' :: rest =>
    match rest with
    | c :: _ => if isDigit c then fail .invalidNumber rest else .ok (['0'], rest)
    | [] => .ok (['0'], rest)
  | c :: _ => if isDigit c then .ok (takeDigits t) else fail .invalidNumber t

/-- A number from `start` on, whose digits begin at `unsigned`. -/
def number (start unsigned : List Char) (negative : Bool) : Except Failure (Json × List Char) := do
  let (whole, rest) ← wholePart unsigned
  if digitLimit < whole.length + (if negative then 1 else 0) then
    throw { fault := .numberOutOfRange, left := start.length - (digitLimit + 1) }
  let (fraction, rest) ← match rest with
    | '.' :: rest => do
      let (ds, rest) ← someDigits rest
      pure (some ds, rest)
    | _ => pure (none, rest)
  let (exponent, rest) ← exponentPart rest
  match fraction, exponent with
  | none, none =>
    let n : Int := Decimal.ofDigits whole
    return (.int (if negative then -n else n), rest)
  | _, _ =>
    let d := Decimal.ofParts negative whole (fraction.getD []) (exponent.getD 0)
    return (.float d.toFloat, rest)

/-- A value that is no container and no string. -/
def scalar (t : List Char) : Except Failure (Json × List Char) :=
  match t with
  | [] => fail .endOfValue []
  | c :: rest =>
    match c with
    | 't' => named (.bool true) "rue".toList rest
    | 'f' => named (.bool false) "alse".toList rest
    | 'n' => named .null "ull".toList rest
    | 'N' => named (.float (0.0 / 0.0)) "aN".toList rest
    | 'I' => named (.float (1.0 / 0.0)) "nfinity".toList rest
    | '-' =>
      match rest with
      | 'I' :: rest => named (.float (-1.0 / 0.0)) "nfinity".toList rest
      | _ => number t rest true
    | _ => if isDigit c then number t t false else fail .expectedValue t

mutual

/-- The value at the start of a text, inside `depth` containers. -/
def value : Nat → Nat → List Char → Except Failure (Json × List Char)
  | 0, _, t => fail .expectedValue t
  | fuel + 1, depth, t =>
    match t with
    | '\x22' :: rest => do
      let (s, rest) ← string rest.length [] rest
      return (.str (Text.ofChars s), rest)
    | '[' :: rest =>
      match skipSpace rest with
      | [] => fail .endOfList []
      | ']' :: rest => return (.arr [], rest)
      | rest => if depth < depthLimit then elements fuel (depth + 1) rest [] else fail .tooDeep rest
    | '\x7b' :: rest =>
      match skipSpace rest with
      | [] => fail .endOfObject []
      | '\x7d' :: rest => return (.obj [], rest)
      | '\x22' :: rest => members fuel (depth + 1) rest []
      | rest => fail .keyNotString rest
    | _ => scalar t

/-- The items of an array through its closing bracket, after the reversed `items`. -/
def elements : Nat → Nat → List Char → List Json → Except Failure (Json × List Char)
  | 0, _, t, _ => fail .expectedValue t
  | fuel + 1, depth, t, items => do
    let (v, rest) ← value fuel depth t
    match skipSpace rest with
    | [] => fail .endOfList []
    | ']' :: rest => return (.arr (v :: items).reverse, rest)
    | ',' :: rest =>
      match skipSpace rest with
      | [] => fail .endOfValue []
      | ']' :: rest => fail .trailingComma (']' :: rest)
      | rest => elements fuel depth rest (v :: items)
    | rest => fail .expectedCommaOrBracket rest

/-- The fields of an object through its closing brace, from behind the quote of a name. -/
def members : Nat → Nat → List Char → List (Text × Json) → Except Failure (Json × List Char)
  | 0, _, t, _ => fail .expectedValue t
  | fuel + 1, depth, t, fields => do
    let (key, rest) ← string t.length [] t
    match skipSpace rest with
    | [] => fail .endOfObject []
    | ':' :: rest =>
      match skipSpace rest with
      | [] => fail .endOfValue []
      | rest =>
        if depthLimit < depth then fail .tooDeep rest
        else
          let (v, rest) ← value fuel depth rest
          let fields := insertField (Text.ofChars key) v fields
          match skipSpace rest with
          | [] => fail .endOfObject []
          | '\x7d' :: rest => return (.obj fields, rest)
          | ',' :: rest =>
            match skipSpace rest with
            | [] => fail .endOfValue []
            | '\x22' :: rest => members fuel depth rest fields
            | '\x7d' :: rest => fail .trailingComma ('\x7d' :: rest)
            | rest => fail .keyNotString rest
          | rest => fail .expectedCommaOrBrace rest
    | rest => fail .expectedColon rest

end

/-- The line, from one, and the column in bytes of the place with `left` characters after it. A line
break belongs to the line that it begins. -/
def place (document : List Char) (left : Nat) : Nat × Nat :=
  let n := document.length - left
  let upTo := document.take (n + 1)
  let lineStart := (upTo.reverse.takeWhile (· != '\n')).reverse
  let column := Text.Utf8.size lineStart
  let beyond := match document[n]? with
    | some c => if c = '\n' then 0 else Text.Utf8.width c - 1
    | none => 0
  (upTo.count '\n' + 1, column - beyond)

def Failure.message (document : List Char) (f : Failure) : String :=
  let (line, column) := place document f.left
  f.fault.message ++ " at line " ++ toString line ++ " column " ++ toString column

/-- Reads a whole text. -/
def read (t : List Char) : Except Failure Json := do
  match skipSpace t with
  | [] => fail .endOfValue []
  | start =>
    let (v, rest) ← value (2 * t.length + 2) 0 start
    match skipSpace rest with
    | [] => return v
    | rest => fail .trailingCharacters rest

/-- Reads a document in UTF-8. -/
def ofBytes (bs : Bytes) : Except Failure Json :=
  match Text.Utf8.decodeChars? bs with
  | some t => read t
  | none => fail .notText []

end Strict

end BotSentry.Json
