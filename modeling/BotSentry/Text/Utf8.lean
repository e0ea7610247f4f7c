import BotSentry.Text.Quoted
import BotSentry.Text.CodePoint

/-!
# UTF-8

Reading a text from bytes, with the place and the reason of the first fault, and writing one. A
reader may let encoded surrogates pass; no surrogate is ever written.
-/

namespace BotSentry

abbrev Bytes := List UInt8

namespace Text

/-- Why bytes are not a text. -/
inductive DecodeReason where
  | invalidStart
  | invalidContinuation
  | endOfData
  | truncated
  | outOfRange
  deriving DecidableEq, Repr

def DecodeReason.message : DecodeReason → String
  | .invalidStart => "invalid start byte"
  | .invalidContinuation => "invalid continuation byte"
  | .endOfData => "unexpected end of data"
  | .truncated => "truncated data"
  | .outOfRange => "code point not in range(0x110000)"

/-- A fault at byte number `position`: the name of the encoding, the bytes that are not a text, and
the reason. -/
structure DecodeFault where
  encoding : String
  position : Nat
  bytes : Bytes
  reason : DecodeReason
  deriving Repr

def DecodeFault.message (f : DecodeFault) : String :=
  let what := match f.bytes with
    | [b] =>
      "byte 0x" ++ String.ofList (hexDigits 2 b.toNat) ++ " in position " ++ toString f.position
    | bs =>
      "bytes in position " ++ toString f.position ++ "-"
        ++ toString (f.position + bs.length - 1)
  "\x27" ++ f.encoding ++ "\x27 codec can\x27t decode " ++ what ++ ": " ++ f.reason.message

/-- The first code point of some bytes and the bytes after it, or the reason why there is none and
the number of bytes at fault. -/
inductive DecodeStep where
  | read (c : CodePoint) (rest : Bytes)
  | bad (reason : DecodeReason) (count : Nat)

namespace Utf8

/-- Whether `b` continues a sequence of bytes. -/
def isTail (b : Nat) : Bool := 0x80 ≤ b && b < 0xC0

def codePoint (n : Nat) : CodePoint := (CodePoint.ofNat? n).getD default

/-- Whether the second of three bytes is right after the first; only where surrogates pass may they
encode one. -/
def isSecondOfThree (pass : Bool) (a b : Nat) : Bool :=
  isTail b && (a != 0xE0 || 0xA0 ≤ b) && (a != 0xED || b < 0xA0 || pass)

def isSecondOfFour (a b : Nat) : Bool :=
  isTail b && (a != 0xF0 || 0x90 ≤ b) && (a != 0xF4 || b < 0x90)

def twoBytes (a : Nat) : Bytes → DecodeStep
  | [] => .bad .endOfData 1
  | b :: rest =>
    if isTail b.toNat then .read (codePoint ((a - 0xC0) * 0x40 + (b.toNat - 0x80))) rest
    else .bad .invalidContinuation 1

def threeBytes (pass : Bool) (a : Nat) : Bytes → DecodeStep
  | [] => .bad .endOfData 1
  | [b] =>
    if isSecondOfThree false a b.toNat then .bad .endOfData 2 else .bad .invalidContinuation 1
  | b :: c :: rest =>
    if isSecondOfThree (pass && isTail c.toNat) a b.toNat then
      if isTail c.toNat then
        .read (codePoint ((a - 0xE0) * 0x1000 + (b.toNat - 0x80) * 0x40 + (c.toNat - 0x80))) rest
      else .bad .invalidContinuation 2
    else .bad .invalidContinuation 1

def fourBytes (a : Nat) : Bytes → DecodeStep
  | [] => .bad .endOfData 1
  | b :: rest =>
    if isSecondOfFour a b.toNat then
      match rest with
      | [] => .bad .endOfData 2
      | c :: rest =>
        if isTail c.toNat then
          match rest with
          | [] => .bad .endOfData 3
          | d :: rest =>
            if isTail d.toNat then
              .read (codePoint ((a - 0xF0) * 0x40000 + (b.toNat - 0x80) * 0x1000
                + (c.toNat - 0x80) * 0x40 + (d.toNat - 0x80))) rest
            else .bad .invalidContinuation 3
        else .bad .invalidContinuation 2
    else .bad .invalidContinuation 1

/-- The first code point; `a` is the first byte. -/
def step (pass : Bool) (a : Nat) (rest : Bytes) : DecodeStep :=
  if a < 0x80 then .read (codePoint a) rest
  else if a < 0xC2 then .bad .invalidStart 1
  else if a < 0xE0 then twoBytes a rest
  else if a < 0xF0 then threeBytes pass a rest
  else if a < 0xF5 then fourBytes a rest
  else .bad .invalidStart 1

/-- Decodes bytes, or gives the bytes from the first fault on, its reason, and the number of bytes at
fault. -/
def decodeFrom (pass : Bool) : Nat → Bytes → Except (Bytes × DecodeReason × Nat) Text
  | 0, _ | _, [] => .ok []
  | fuel + 1, a :: rest =>
    match step pass a.toNat rest with
    | .read c rest' => (decodeFrom pass fuel rest').map (c :: ·)
    | .bad reason count => .error (a :: rest, reason, count)

/-- Decodes bytes; `pass` lets surrogates through. -/
def decode (pass : Bool) (bs : Bytes) : Except DecodeFault Text :=
  (decodeFrom pass bs.length bs).mapError fun (left, reason, count) =>
    { encoding := "utf-8", position := bs.length - left.length, bytes := left.take count, reason }

/-- Decodes bytes that hold no surrogate. -/
def decodeChars? (bs : Bytes) : Option (List Char) :=
  match decode false bs with
  | .ok t => toChars? t
  | .error _ => none

def encodeChar (c : Char) : Bytes :=
  let n := c.toNat
  if n < 0x80 then [n.toUInt8]
  else if n < 0x800 then [(0xC0 + n / 0x40).toUInt8, (0x80 + n % 0x40).toUInt8]
  else if n < 0x10000 then
    [(0xE0 + n / 0x1000).toUInt8, (0x80 + n / 0x40 % 0x40).toUInt8, (0x80 + n % 0x40).toUInt8]
  else
    [(0xF0 + n / 0x40000).toUInt8, (0x80 + n / 0x1000 % 0x40).toUInt8,
      (0x80 + n / 0x40 % 0x40).toUInt8, (0x80 + n % 0x40).toUInt8]

def encodeChars (cs : List Char) : Bytes := cs.flatMap encodeChar

def encode (s : String) : Bytes := encodeChars s.toList

/-- The number of bytes of a character. -/
def width (c : Char) : Nat :=
  let n := c.toNat
  if n < 0x80 then 1 else if n < 0x800 then 2 else if n < 0x10000 then 3 else 4

/-- The number of bytes of some characters. -/
def size (cs : List Char) : Nat := cs.foldr (width · + ·) 0

end Utf8

/-- A run of surrogates, which have no encoding: where it begins, how long it is, and the first of
them. -/
structure EncodeFault where
  position : Nat
  count : Nat
  code : Nat
  deriving Repr

def EncodeFault.message (f : EncodeFault) : String :=
  let what :=
    if f.count = 1 then
      "character \x27\x5cu" ++ String.ofList (hexDigits 4 f.code) ++ "\x27 in position "
        ++ toString f.position
    else
      "characters in position " ++ toString f.position ++ "-" ++ toString (f.position + f.count - 1)
  "\x27utf-8\x27 codec can\x27t encode " ++ what ++ ": surrogates not allowed"

def isSurrogate : CodePoint → Bool
  | .surrogate _ => true
  | .char _ => false

/-- The first surrogates of a text whose first code point is number `position`. -/
def surrogates? : Text → Nat → Option EncodeFault
  | [], _ => none
  | .char _ :: rest, position => surrogates? rest (position + 1)
  | .surrogate s :: rest, position =>
    some { position, count := (rest.takeWhile isSurrogate).length + 1, code := 0xD800 + s.val }

/-- The bytes of a text that has no surrogates. -/
def encode (t : Text) : Except EncodeFault Bytes :=
  match surrogates? t 0 with
  | some fault => .error fault
  | none => .ok (t.flatMap fun c => (c.char?.map Utf8.encodeChar).getD [])

end Text

end BotSentry
