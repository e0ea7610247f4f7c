import BotSentry.Time.Calendar

/-!
# Date-times

A date-time is a date and a time of day to the microsecond, with the offset of its clock from
universal time if it has one. Without an offset the clock shows universal time.
-/

namespace BotSentry

/-- Why a number or a date-time has no place on a time scale. -/
inductive TimeFault where
  | yearOutOfRange (year : Int)
  | dateOutOfRange
  | secondsOutOfRange
  | yearTooLarge
  | notANumber
  deriving DecidableEq, Repr

def TimeFault.message : TimeFault → String
  | .yearOutOfRange year => "year " ++ toString year ++ " is out of range"
  | .dateOutOfRange => "date value out of range"
  | .secondsOutOfRange => "timestamp out of range for platform time_t"
  | .yearTooLarge => "[Errno 75] Value too large for defined data type"
  | .notANumber => "Invalid value NaN (not a number)"

/-- What a clock shows, in microseconds since the beginning of the year 1, and its offset from
universal time in microseconds. -/
structure DateTime where
  shown : Nat
  offset : Option Int := none
  deriving DecidableEq, Repr, Inhabited

namespace DateTime

def microsPerSecond : Nat := 1000000

def microsPerDay : Nat := 86400 * microsPerSecond

/-- The end of the year 9999. -/
def limit : Nat := 3652059 * microsPerDay

/-- The beginning of the year 1970 in universal time. -/
def epoch : Nat := 719162 * microsPerDay

def ofParts (date : Date) (hour minute second micros : Nat) (offset : Option Int) : DateTime where
  shown := (date.toDays * 86400 + hour * 3600 + minute * 60 + second) * microsPerSecond + micros
  offset

def date (t : DateTime) : Date := Date.ofDays (t.shown / microsPerDay)

def secondOfDay (t : DateTime) : Nat := t.shown / microsPerSecond % 86400

def micros (t : DateTime) : Nat := t.shown % microsPerSecond

/-- The universal time, in microseconds since the beginning of the year 1. -/
def instant (t : DateTime) : Int := t.shown - t.offset.getD 0

/-- The same instant on a clock that shows universal time. A clock without an offset cannot be asked
on its very first day. -/
def toUniversal (t : DateTime) : Except TimeFault DateTime :=
  if t.offset.isNone && t.shown < microsPerDay then .error (.yearOutOfRange 0)
  else if 0 ≤ t.instant && t.instant < limit then
    .ok { shown := t.instant.toNat, offset := some 0 }
  else .error .dateOutOfRange

/-- The decimal digits of `n`, at least `width` of them. -/
def padded (width n : Nat) : List Char :=
  let ds := Nat.toDigits 10 n
  List.replicate (width - ds.length) '0' ++ ds

/-- The date and the time of day with a letter between them; the year has at least `width` digits. -/
def plainChars (width : Nat) (t : DateTime) : List Char :=
  let d := t.date
  let s := t.secondOfDay
  padded width d.year ++ '-' :: padded 2 d.month ++ '-' :: padded 2 d.day
    ++ 'T' :: padded 2 (s / 3600) ++ ':' :: padded 2 (s / 60 % 60) ++ ':' :: padded 2 (s % 60)

/-- Six digits after a point, unless the second is whole. -/
def fractionChars (t : DateTime) : List Char :=
  if t.micros = 0 then [] else '.' :: padded 6 t.micros

/-- The sign and the hours and minutes of an offset. -/
def offsetChars (offset : Int) : List Char :=
  let minutes := offset.natAbs / microsPerSecond / 60
  (if offset < 0 then '-' else '+') :: padded 2 (minutes / 60) ++ ':' :: padded 2 (minutes % 60)

/-- The form in stored documents: `Z` stands for a zero offset, and seconds of an offset are left
out. -/
def storedChars (t : DateTime) : List Char :=
  plainChars 4 t ++ fractionChars t ++
    match t.offset with
    | none => []
    | some 0 => ['Z']
    | some o => offsetChars o

/-- The form with a full offset. -/
def fullChars (t : DateTime) : List Char :=
  plainChars 4 t ++ fractionChars t ++
    match t.offset with
    | none => []
    | some o =>
      let micros := o.natAbs % microsPerSecond
      let seconds := o.natAbs / microsPerSecond % 60
      offsetChars o
        ++ (if seconds = 0 && micros = 0 then [] else ':' :: padded 2 seconds)
        ++ (if micros = 0 then [] else '.' :: padded 6 micros)

/-- The universal time to the second, with `Z`; the year is not padded. -/
def stampChars (t : DateTime) : Except TimeFault (List Char) := do
  return plainChars 1 (← t.toUniversal) ++ ['Z']

end DateTime

end BotSentry
