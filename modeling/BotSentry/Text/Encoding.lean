import BotSentry.Text.Utf8

/-!
# Guessing the encoding of a document

A document in JSON begins with two ASCII characters, or is one, so that the zeros among its first
bytes, or a byte order mark, tell the width and the order of its units. Encoded surrogates pass.
-/

namespace BotSentry.Text

/-- The order of the bytes of a unit. -/
inductive ByteOrder where
  | little
  | big
  deriving DecidableEq, Repr

inductive Encoding where
  | utf8
  | utf16 (order : ByteOrder)
  | utf32 (order : ByteOrder)
  deriving DecidableEq, Repr

namespace Encoding

def orderName : ByteOrder → String
  | .little => "le"
  | .big => "be"

/-- The encoding of a document and the length of its byte order mark. -/
def guess : Bytes → Encoding × Nat
  | 0xFF :: 0xFE :: 0 :: 0 :: _ => (.utf32 .little, 4)
  | 0 :: 0 :: 0xFE :: 0xFF :: _ => (.utf32 .big, 4)
  | 0xFF :: 0xFE :: _ => (.utf16 .little, 2)
  | 0xFE :: 0xFF :: _ => (.utf16 .big, 2)
  | 0xEF :: 0xBB :: 0xBF :: _ => (.utf8, 3)
  | a :: b :: c :: d :: _ =>
    if a = 0 then (if b = 0 then .utf32 .big else .utf16 .big, 0)
    else if b = 0 then (if c = 0 && d = 0 then .utf32 .little else .utf16 .little, 0)
    else (.utf8, 0)
  | [a, b] =>
    if a = 0 then (.utf16 .big, 0) else if b = 0 then (.utf16 .little, 0) else (.utf8, 0)
  | _ => (.utf8, 0)

/-- The value of a unit. -/
def unitValue (order : ByteOrder) (unit : Bytes) : Nat :=
  let bs := match order with
    | .little => unit.reverse
    | .big => unit
  bs.foldl (fun n b => n * 256 + b.toNat) 0

/-- Decodes units of two bytes from byte number `position` on. -/
def decodeUnits16 (order : ByteOrder) : Nat → Nat → Bytes → Except DecodeFault Text
  | 0, _, _ | _, _, [] => .ok []
  | fuel + 1, position, a :: b :: rest => do
    let unit := unitValue order [a, b]
    match rest with
    | c :: d :: rest' =>
      let low := unitValue order [c, d]
      if 0xD800 ≤ unit && unit < 0xDC00 && 0xDC00 ≤ low && low < 0xE000 then
        let c := Utf8.codePoint (0x10000 + (unit - 0xD800) * 0x400 + (low - 0xDC00))
        return c :: (← decodeUnits16 order fuel (position + 4) rest')
      else return Utf8.codePoint unit :: (← decodeUnits16 order fuel (position + 2) rest)
    | _ => return Utf8.codePoint unit :: (← decodeUnits16 order fuel (position + 2) rest)
  | _ + 1, position, [a] =>
    .error { encoding := "utf-16-" ++ orderName order, position, bytes := [a], reason := .truncated }

/-- Decodes units of four bytes from byte number `position` on. -/
def decodeUnits32 (order : ByteOrder) : Nat → Nat → Bytes → Except DecodeFault Text
  | 0, _, _ | _, _, [] => .ok []
  | fuel + 1, position, a :: b :: c :: d :: rest =>
    match CodePoint.ofNat? (unitValue order [a, b, c, d]) with
    | some c => do return c :: (← decodeUnits32 order fuel (position + 4) rest)
    | none =>
      .error { encoding := "utf-32-" ++ orderName order, position, bytes := [a, b, c, d],
               reason := .outOfRange }
  | _ + 1, position, bs =>
    .error { encoding := "utf-32-" ++ orderName order, position, bytes := bs, reason := .truncated }

/-- Decodes a document in the encoding that it seems to have. Positions count the byte order mark,
except that of UTF-8. -/
def decode (bs : Bytes) : Except DecodeFault Text :=
  let (encoding, mark) := guess bs
  let rest := bs.drop mark
  match encoding with
  | .utf8 => Utf8.decode true rest
  | .utf16 order => decodeUnits16 order bs.length mark rest
  | .utf32 order => decodeUnits32 order bs.length mark rest

end Encoding

end BotSentry.Text
