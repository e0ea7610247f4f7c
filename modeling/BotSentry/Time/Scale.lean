import BotSentry.Time.DateTime

/-!
# Time scales

The points of time that clocks show and caches and synchronisation compute with: seconds since the
beginning of 1970. A program runs on doubles; on whole microseconds the same computation is exact.
-/

namespace BotSentry

/-- A scale of seconds since the beginning of 1970. -/
class TimeScale (τ : Type) where
  zero : τ
  ofSeconds : Int → τ
  add : τ → τ → τ
  sub : τ → τ → τ
  le : τ → τ → Bool
  isZero : τ → Bool
  ofDateTime : DateTime → Except TimeFault τ
  /-- The universal time at a point, to the nearest microsecond. -/
  toDateTime : τ → Except TimeFault DateTime

/-- The scale of whole microseconds. -/
structure Micros where
  count : Int
  deriving DecidableEq, Repr

namespace Micros

def toDateTime (t : Micros) : Except TimeFault DateTime :=
  let shown := t.count + DateTime.epoch
  if 0 ≤ shown && shown < DateTime.limit then .ok { shown := shown.toNat, offset := some 0 }
  else .error (.yearOutOfRange (if shown < 0 then 0 else 10000))

instance : TimeScale Micros where
  zero := ⟨0⟩
  ofSeconds n := ⟨n * DateTime.microsPerSecond⟩
  add a b := ⟨a.count + b.count⟩
  sub a b := ⟨a.count - b.count⟩
  le a b := a.count ≤ b.count
  isZero a := a.count = 0
  ofDateTime t :=
    if t.offset.isNone && t.shown < DateTime.microsPerDay then .error (.yearOutOfRange 0)
    else .ok ⟨t.instant - DateTime.epoch⟩
  toDateTime := toDateTime

end Micros

namespace Seconds

/-- A number of microseconds as the nearest double of seconds. -/
def ofMicros (n : Int) : Float :=
  let size := Float.ofScientific n.natAbs true 6
  if n < 0 then -size else size

/-- The seconds of a date-time. Without an offset, the seconds and their fraction are added as
doubles. -/
def ofDateTime (t : DateTime) : Except TimeFault Float :=
  match t.offset with
  | none =>
    if t.shown < DateTime.microsPerDay then .error (.yearOutOfRange 0)
    else
      let seconds : Int :=
        (t.shown / DateTime.microsPerSecond : Nat)
          - (DateTime.epoch / DateTime.microsPerSecond : Nat)
      .ok (Float.ofInt seconds + Float.ofNat t.micros / 1000000.0)
  | some _ => .ok (ofMicros (t.instant - DateTime.epoch))

/-- The nearest integer, a half going to the even one. -/
def roundHalfEven (x : Float) : Float :=
  let r := x.round
  if (x - r).abs == 0.5 then 2.0 * (x / 2.0).round else r

/-- A whole double as an integer. -/
def toInt (x : Float) : Int :=
  let size := x.abs
  let n : Nat := if size < 18446744073709551616.0 then size.toUInt64.toNat else 0x10000000000000000
  if x < 0.0 then -n else n

/-- The greatest number of seconds that a clock can hold. -/
def secondsLimit : Float := 9223372036854775808.0

/-- The year of a day counted from the first of January of the year 1, also before it. -/
def yearOfDay (day : Int) : Int :=
  let cycle := day / 146097
  cycle * 400 + (Date.yearOfDay (day % 146097).toNat).1

def toDateTime (x : Float) : Except TimeFault DateTime := do
  if x.isNaN then throw .notANumber
  if x.isInf then throw .secondsOutOfRange
  let whole := if x < 0.0 then x.ceil else x.floor
  let micros := roundHalfEven ((x - whole) * 1000000.0)
  let (whole, micros) :=
    if micros ≥ 1000000.0 then (whole + 1.0, micros - 1000000.0)
    else if micros < 0.0 then (whole - 1.0, micros + 1000000.0)
    else (whole, micros)
  if whole ≥ secondsLimit || whole < -secondsLimit then throw .secondsOutOfRange
  let seconds := toInt whole + (DateTime.epoch / DateTime.microsPerSecond : Nat)
  let year := yearOfDay (seconds / 86400)
  if year < 1 || 9999 < year then
    throw (if 0x80000000 + 1899 < year || year < 1900 - 0x80000000 then .yearTooLarge
      else .yearOutOfRange year)
  return { shown := seconds.toNat * DateTime.microsPerSecond + (toInt micros).toNat
           offset := some 0 }

instance : TimeScale Float where
  zero := 0.0
  ofSeconds n := Float.ofInt n
  add a b := a + b
  sub a b := a - b
  le a b := a ≤ b
  isZero a := a == 0.0
  ofDateTime := ofDateTime
  toDateTime := toDateTime

end Seconds

end BotSentry
