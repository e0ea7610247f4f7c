/-!
# Decimal numbers

A decimal number is an integer scaled by a power of ten. Its double is the nearest one, ties going to
the even neighbour; numbers that are far beyond the doubles are not computed.
-/

namespace BotSentry

/-- The number `± mantissa * 10 ^ exponent`. -/
structure Decimal where
  negative : Bool
  mantissa : Nat
  exponent : Int
  deriving DecidableEq, Repr

namespace Decimal

/-- The number of decimal digits of `n`, and none for zero. -/
def digitCount (n : Nat) : Nat :=
  if n = 0 then 0 else (Nat.toDigits 10 n).length

/-- The decimal places beyond which no double lies. -/
def horizon : Int := 400

/-- The double nearest to a number. -/
def toFloat (d : Decimal) : Float :=
  let top := d.exponent + digitCount d.mantissa
  let size :=
    if d.mantissa = 0 || top < -horizon then 0.0
    else if horizon < top then 1.0 / 0.0
    else Float.ofScientific d.mantissa (d.exponent < 0) d.exponent.natAbs
  if d.negative then -size else size

/-- The value of decimal digits. -/
def ofDigits (ds : List Char) : Nat := ds.foldl (fun n c => n * 10 + (c.toNat - 0x30)) 0

/-- The number with the given digits before and after the point, and a power of ten. -/
def ofParts (negative : Bool) (whole fraction : List Char) (exponent : Int) : Decimal where
  negative
  mantissa := ofDigits (whole ++ fraction)
  exponent := exponent - fraction.length

end Decimal

end BotSentry
