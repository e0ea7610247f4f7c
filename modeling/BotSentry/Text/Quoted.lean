import BotSentry.Text.Class

/-!
# Quoted text

A text is quoted between single quotes, or between double quotes when it holds a single quote and
no double quote. Backslashes, the chosen quote and characters without a printed form are escaped.
-/

namespace BotSentry.Text

/-- The lower-case hexadecimal digits of `n`, at least `width` of them. -/
def hexDigits (width n : Nat) : List Char :=
  let ds := Nat.toDigits 16 n
  List.replicate (width - ds.length) '0' ++ ds

def quoteMark (cs : List Char) : Char :=
  if cs.contains '\x27' && !cs.contains '\x22' then '\x22' else '\x27'

/-- One character between the quotes `q`. -/
def quotedChar (q c : Char) : List Char :=
  if c == q || c == '\x5c' then ['\x5c', c]
  else if c == '\t' then ['\x5c', 't']
  else if c == '\n' then ['\x5c', 'n']
  else if c == '\r' then ['\x5c', 'r']
  else if isPrintable c.toNat then [c]
  else if c.toNat ≤ 0xFF then ['\x5c', 'x'] ++ hexDigits 2 c.toNat
  else if c.toNat ≤ 0xFFFF then ['\x5c', 'u'] ++ hexDigits 4 c.toNat
  else ['\x5c', 'U'] ++ hexDigits 8 c.toNat

def quotedChars (cs : List Char) : List Char :=
  let q := quoteMark cs
  q :: cs.flatMap (quotedChar q) ++ [q]

def quoted (s : String) : String := String.ofList (quotedChars s.toList)

end BotSentry.Text
