import BotSentry.Json.Basic
import BotSentry.Decimal.Shortest
import BotSentry.Text.Utf8

/-!
# Writing JSON

Without blanks, fields in their order. Quotes, backslashes and control characters are escaped, and
where only ASCII is wanted, everything beyond it.
-/

namespace BotSentry.Json

/-- A code unit as an escape. -/
def unitEscape (n : Nat) : Text := Text.ofChars ('\x5c' :: 'u' :: Text.hexDigits 4 n)

/-- A code point as one escape, or as two for the halves of a pair. -/
def codeEscape (n : Nat) : Text :=
  if n < 0x10000 then unitEscape n
  else unitEscape (0xD800 + (n - 0x10000) / 0x400) ++ unitEscape (0xDC00 + (n - 0x10000) % 0x400)

/-- A code point inside quotes. -/
def writeCodePoint (ascii : Bool) (c : CodePoint) : Text :=
  match c with
  | .char '\x22' => Text.ofChars ['\x5c', '\x22']
  | .char '\x5c' => Text.ofChars ['\x5c', '\x5c']
  | .char '\x08' => Text.ofChars ['\x5c', 'b']
  | .char '\x0c' => Text.ofChars ['\x5c', 'f']
  | .char '\n' => Text.ofChars ['\x5c', 'n']
  | .char '\r' => Text.ofChars ['\x5c', 'r']
  | .char '\t' => Text.ofChars ['\x5c', 't']
  | _ => if c.value < 0x20 || (ascii && 0x7E < c.value) then codeEscape c.value else [c]

def quote : CodePoint := .char '\x22'

def writeText (ascii : Bool) (t : Text) : Text :=
  quote :: t.flatMap (writeCodePoint ascii) ++ [quote]

mutual

def write (ascii : Bool) : Json → Text
  | .null => Text.ofString "null"
  | .bool b => Text.ofString (if b then "true" else "false")
  | .int n => Text.ofString (toString n)
  | .float x => Text.ofChars (Decimal.floatChars x)
  | .str t => writeText ascii t
  | .arr items => .char '[' :: writeItems ascii items ++ [.char ']']
  | .obj fields => .char '\x7b' :: writeFields ascii fields ++ [.char '\x7d']

def writeItems (ascii : Bool) : List Json → Text
  | [] => []
  | [v] => write ascii v
  | v :: rest => write ascii v ++ .char ',' :: writeItems ascii rest

def writeFields (ascii : Bool) : List (Text × Json) → Text
  | [] => []
  | [(k, v)] => writeText ascii k ++ .char ':' :: write ascii v
  | (k, v) :: rest => writeText ascii k ++ .char ':' :: write ascii v
      ++ .char ',' :: writeFields ascii rest

end

mutual

/-- The first text of a value that cannot be encoded. -/
def unencodable? : Json → Option Text.EncodeFault
  | .str t => Text.surrogates? t 0
  | .arr items => unencodableItem? items
  | .obj fields => unencodableField? fields
  | _ => none

def unencodableItem? : List Json → Option Text.EncodeFault
  | [] => none
  | v :: rest => unencodable? v <|> unencodableItem? rest

def unencodableField? : List (Text × Json) → Option Text.EncodeFault
  | [] => none
  | (k, v) :: rest => Text.surrogates? k 0 <|> unencodable? v <|> unencodableField? rest

end

/-- The bytes of a value. -/
def encode (v : Json) : Except Text.EncodeFault Bytes :=
  match unencodable? v with
  | some fault => .error fault
  | none => Text.encode (write false v)

/-- The text of a value in ASCII. -/
def toAscii (v : Json) : String :=
  String.ofList ((write true v).filterMap (·.char?))

end BotSentry.Json
