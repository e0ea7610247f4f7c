/-!
# The shortest decimal that reads back

A double stands for the real numbers that round to it. Its shortest text has the fewest digits
among the decimals of that interval, and of those with as few digits it is the nearest.
-/

namespace BotSentry.Decimal

/-- A positive double `m * 2 ^ q`; `narrow` says that the gap below it is half the gap above it. -/
structure Binary where
  m : Nat
  q : Int
  narrow : Bool

/-- The magnitude of a finite double that is not zero. -/
def Binary.ofFloat (x : Float) : Binary :=
  let bits := x.toBits.toNat % 0x8000000000000000
  let e : Nat := bits / 0x10000000000000
  let f : Nat := bits % 0x10000000000000
  if e = 0 then { m := f, q := -1074, narrow := false }
  else { m := 0x10000000000000 + f, q := (e : Int) - 1075, narrow := f = 0 && 1 < e }

/-- The whole part of the magnitude. -/
def Binary.whole (b : Binary) : Nat := b.m * Nat.pow 2 b.q.toNat / Nat.pow 2 (-b.q).toNat

/-- The double over four times `10 ^ e`, as a numerator and a denominator without the factor `m`. -/
def Binary.scale (b : Binary) (e : Int) : Nat × Nat :=
  let two := b.q - 2
  (Nat.pow 2 two.toNat * Nat.pow 10 (-e).toNat, Nat.pow 2 (-two).toNat * Nat.pow 10 e.toNat)

/-- The decimal place of the first digit: the greatest `e` with `10 ^ e` at most the double. -/
def Binary.place (b : Binary) : Int :=
  let guess := ((Nat.log2 b.m : Int) + b.q) * 30103 / 100000
  let atMost (e : Int) : Bool :=
    let (num, den) := b.scale e
    den ≤ 4 * b.m * num
  if atMost (guess + 1) then guess + 1 else if atMost guess then guess else guess - 1

/-- The multiple of `10 ^ e` nearest to the double among those that read back, if there is one. -/
def Binary.onGrid (b : Binary) (e : Int) : Option Nat :=
  let (num, den) := b.scale e
  let value := 4 * b.m * num
  let low := (4 * b.m - (if b.narrow then 1 else 2)) * num
  let high := (4 * b.m + 2) * num
  let even := b.m % 2 = 0
  let inside (c : Nat) : Bool :=
    if even then low ≤ c * den && c * den ≤ high else low < c * den && c * den < high
  let down := value / den
  let up := down + 1
  match inside down, inside up with
  | true, true =>
    let below := value - down * den
    let above := up * den - value
    some (if below < above || (below = above && down % 2 = 0) then down else up)
  | true, false => some down
  | false, true => some up
  | false, false => none

/-- The first grid with a hit, from `n` digits on. -/
def Binary.search (b : Binary) (place : Int) : Nat → Nat → Nat × Int
  | 0, _ => (b.m, 0)
  | fuel + 1, n =>
    let e := place - n + 1
    match b.onGrid e with
    | some c => (c, e)
    | none => b.search place fuel (n + 1)

/-- The shortest digits and the place of the first one. -/
def shortest (x : Float) : List Char × Int :=
  let b := Binary.ofFloat x
  let (c, e) := b.search b.place 17 1
  let ds := Nat.toDigits 10 c
  let trimmed := (ds.reverse.dropWhile (· == '0')).reverse
  (trimmed, e + ds.length - 1)

/-- The whole part of a finite double. -/
def whole (x : Float) : Int :=
  let n : Int := (Binary.ofFloat x).whole
  if x < 0.0 then -n else n

def isNegative (x : Float) : Bool := x.toBits.toNat / 0x8000000000000000 = 1

/-- A number in the interchange format: positional from `1e-4` up to `1e16`, with a point. -/
def floatChars (x : Float) : List Char :=
  let sign := if isNegative x then ['-'] else []
  if x.isNaN then "NaN".toList
  else if x.isInf then sign ++ "Infinity".toList
  else if x == 0.0 then sign ++ "0.0".toList
  else
    let (ds, place) := shortest x
    if -4 ≤ place && place < 16 then
      if place < 0 then sign ++ "0.".toList ++ List.replicate (-place - 1).toNat '0' ++ ds
      else
        let n := place.toNat + 1
        let whole := ds.take n ++ List.replicate (n - ds.length) '0'
        let fraction := ds.drop n
        sign ++ whole ++ ['.'] ++ (if fraction.isEmpty then ['0'] else fraction)
    else
      let head := ds.take 1
      let tail := ds.drop 1
      let e := Nat.toDigits 10 place.natAbs
      sign ++ head ++ (if tail.isEmpty then [] else '.' :: tail) ++ ['e']
        ++ (if place < 0 then ['-'] else ['+']) ++ (if e.length < 2 then '0' :: e else e)

end BotSentry.Decimal
