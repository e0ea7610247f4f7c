import BotSentry.Decimal.Reading
import BotSentry.Text.Utf8
import BotSentry.Time.Scale

/-!
# Reading date-times

A stored date-time is a text, `2026-10-01T12:00:00.5+02:00` with many parts optional, or a number of
seconds, or of milliseconds where the seconds would be far away, since the beginning of 1970. A
text that is not a date-time is read as a date, and its fault is then that of the date.
-/

namespace BotSentry

inductive DateFault where
  | tooShort
  | separator
  | yearCharacter
  | monthCharacter
  | dayCharacter
  | monthRange
  | dayRange
  | extraCharacters
  | afterLimit
  | beforeStart
  | yearZero
  | notANumber
  deriving DecidableEq, Repr

def DateFault.message : DateFault → String
  | .tooShort => "input is too short"
  | .separator => "invalid date separator, expected \x60-\x60"
  | .yearCharacter => "invalid character in year"
  | .monthCharacter => "invalid character in month"
  | .dayCharacter => "invalid character in day"
  | .monthRange => "month value is outside expected range of 1-12"
  | .dayRange => "day value is outside expected range"
  | .extraCharacters => "unexpected extra characters at the end of the input"
  | .afterLimit => "dates after 9999 are not supported as unix timestamps"
  | .beforeStart => "dates before 0000 are not supported as unix timestamps"
  | .yearZero => "year 0 is out of range"
  | .notANumber => "NaN values not permitted"

/-- A fault of a date-time, or of a date where a date-time could not be read. -/
inductive DateTimeFault where
  | dateTime (fault : DateFault)
  | date (fault : DateFault)
  deriving DecidableEq, Repr

namespace DateTime

def digit? (c : Char) : Option Nat :=
  if '0' ≤ c && c ≤ '9' then some (c.toNat - 0x30) else none

/-- The value of two digits. -/
def two? (a b : Char) : Option Nat := do
  return (← digit? a) * 10 + (← digit? b)

/-- The date in the first ten characters, the year possibly zero, and the rest. -/
def datePart (cs : List Char) : Except DateFault (Date × List Char) :=
  if Text.Utf8.size cs < 10 then .error .tooShort
  else do
    let digit (i : Nat) (fault : DateFault) : Except DateFault Nat :=
      match cs[i]?.bind digit? with
      | some d => .ok d
      | none => .error fault
    let dash (i : Nat) : Except DateFault Unit :=
      if cs[i]? = some '-' then .ok () else .error .separator
    let y1 ← digit 0 .yearCharacter
    let y2 ← digit 1 .yearCharacter
    let y3 ← digit 2 .yearCharacter
    let y4 ← digit 3 .yearCharacter
    dash 4
    let m1 ← digit 5 .monthCharacter
    let m2 ← digit 6 .monthCharacter
    dash 7
    let d1 ← digit 8 .dayCharacter
    let d2 ← digit 9 .dayCharacter
    let year := y1 * 1000 + y2 * 100 + y3 * 10 + y4
    let month := m1 * 10 + m2
    let day := d1 * 10 + d2
    if month < 1 || 12 < month then throw .monthRange
    if day < 1 || Date.monthLength year month < day then throw .dayRange
    return ({ year, month, day }, cs.drop 10)

/-- The digits of a fraction of a second as microseconds; those beyond the sixth are cut off. -/
def fractionMicros (ds : List Char) : Nat :=
  Decimal.ofDigits ((ds ++ List.replicate 6 '0').take 6)

/-- A time of day, in seconds and microseconds, and the rest. -/
def timePart : List Char → Option ((Nat × Nat) × List Char)
  | h1 :: h2 :: ':' :: m1 :: m2 :: rest => do
    let hour ← two? h1 h2
    let minute ← two? m1 m2
    if 23 < hour || 59 < minute then none
    else match rest with
      | ':' :: s1 :: s2 :: rest =>
        let second ← two? s1 s2
        if 59 < second then none
        else
          let total := hour * 3600 + minute * 60 + second
          match rest with
          | sep :: after =>
            if sep = '.' || sep = ',' then
              let ds := after.takeWhile (digit? · |>.isSome)
              if ds.isEmpty then none
              else some ((total, fractionMicros ds), after.drop ds.length)
            else some ((total, 0), rest)
          | [] => some ((total, 0), [])
      | [':'] | [':', _] => none
      | _ => some ((hour * 3600 + minute * 60, 0), rest)
  | _ => none

/-- The offset at the end of a date-time, in seconds. -/
def offsetPart (cs : List Char) : Option (Option Int) :=
  match cs with
  | [] => some none
  | ['Z'] | ['z'] => some (some 0)
  | c :: h1 :: h2 :: rest => do
    let sign : Int ← if c = '+' then some 1 else if c = '-' || c.toNat = 0x2212 then some (-1) else none
    let hours ← two? h1 h2
    let minutes ← match rest with
      | [':', m1, m2] | [m1, m2] => two? m1 m2
      | _ => none
    let seconds := hours * 3600 + minutes * 60
    if 60 ≤ minutes || 86400 ≤ seconds then none else some (some (sign * seconds))
  | _ => none

/-- A date-time in the written form. -/
def ofWritten? (cs : List Char) : Option (Date × (Nat × Nat) × Option Int) := do
  let (date, rest) ← (datePart cs).toOption
  match rest with
  | sep :: rest =>
    if sep = 'T' || sep = 't' || sep = ' ' || sep = '_' then
      let (time, rest) ← timePart rest
      let offset ← offsetPart rest
      some (date, time, offset)
    else none
  | [] => none

/-- The place of a written date-time, which exists except in a year zero. -/
def ofFields (date : Date) (time : Nat × Nat) (offset : Option Int) : Except DateFault DateTime :=
  if date.year = 0 then .error .yearZero
  else .ok {
    shown := (date.toDays * 86400 + time.1) * microsPerSecond + time.2
    offset := offset.map (· * microsPerSecond) }

/-- The greatest number that stands for seconds. -/
def secondsMost : Nat := 20000000000

/-- The beginning of the year 0 and the last second of the year 9999, in seconds from 1970. -/
def firstSecond : Int := -62167219200

def lastSecond : Int := 253402300799

/-- The bounds of the whole numbers that are read. -/
def wholeLeast : Int := -0x8000000000000000

def wholeMost : Int := 0x7FFFFFFFFFFFFFFF

/-- The universal time of a whole number and some microseconds. -/
def ofNumber (n : Int) (micros : Nat) : Except DateFault DateTime :=
  let (seconds, extra) : Int × Nat :=
    if n.natAbs ≤ secondsMost then (n, 0) else (n / 1000, (n % 1000).toNat * 1000)
  let total := micros + extra
  let seconds := seconds + total / microsPerSecond
  if n = wholeLeast || seconds < firstSecond then .error .beforeStart
  else if lastSecond < seconds then .error .afterLimit
  else
    let shown := (seconds + (epoch / microsPerSecond : Nat)) * microsPerSecond
      + (total % microsPerSecond : Nat)
    if shown < 0 then .error .yearZero else .ok { shown := shown.toNat, offset := some 0 }

/-- A double as a whole number within the bounds. -/
def clampWhole (x : Float) : Int :=
  if x ≥ Seconds.secondsLimit then wholeMost
  else if x ≤ -Seconds.secondsLimit then wholeLeast
  else Seconds.toInt x

/-- The universal time of a number with a fraction. -/
def ofFloat (x : Float) : Except DateFault DateTime :=
  if x.isNaN then .error .notANumber
  else
    let whole := x.floor
    let towardZero := if x < 0.0 then x.ceil else whole
    let fraction := if x.isInf then 0.0 else (x - towardZero).abs
    ofNumber (clampWhole whole) (fraction * 1000000.0).round.toUInt64.toNat

/-- A number written without an exponent: whole, or with the digits after its point. -/
inductive Written where
  | whole (n : Int)
  | fraction (x : Float)

/-- A number as a text: a sign, digits, and possibly a point with digits. -/
def written? (cs : List Char) : Option Written :=
  let (negative, rest) := match cs with
    | '-' :: rest => (true, rest)
    | '+' :: rest => (false, rest)
    | _ => (false, cs)
  let ds := rest.takeWhile (digit? · |>.isSome)
  let n : Int := Decimal.ofDigits ds
  if ds.isEmpty || wholeMost < n then none
  else match rest.drop ds.length with
    | [] => some (.whole (if negative then -n else n))
    | '.' :: fs =>
      if fs.all (digit? · |>.isSome) then
        let step (p : Float × Float) (c : Char) : Float × Float :=
          (p.1 + Float.ofNat ((digit? c).getD 0) / p.2, p.2 * 10.0)
        let x := (fs.foldl step (Float.ofInt n, 10.0)).1
        some (.fraction (if negative then -x else x))
      else none
    | _ => none

/-- A written number as a date-time. Its fraction counts from the whole number below it. -/
def ofWrittenNumber : Written → Except DateFault DateTime
  | .whole n => ofNumber n 0
  | .fraction x =>
    let seconds := if x.abs > Float.ofNat secondsMost then x / 1000.0 else x
    let whole := seconds.floor
    ofNumber (clampWhole whole) ((seconds - whole) * 1000000.0).round.toUInt64.toNat

/-- A text as a date at midnight. -/
def ofDateText (cs : List Char) : Except DateTimeFault DateTime :=
  let asDate : Except DateFault Date := do
    let (date, rest) ← datePart cs
    if rest.isEmpty then return date else throw .extraCharacters
  match asDate with
  | .ok date => (ofFields date (0, 0) none).mapError .dateTime
  | .error fault =>
    match written? cs with
    | some (.whole n) =>
      match ofNumber n 0 with
      | .ok t => .ok { shown := t.shown, offset := none }
      | .error fault => .error (.date fault)
    | _ => .error (.date fault)

/-- A text as a date-time. -/
def ofText (cs : List Char) : Except DateTimeFault DateTime :=
  match ofWritten? cs with
  | some (date, time, offset) => (ofFields date time offset).mapError .dateTime
  | none =>
    match written? cs with
    | some w =>
      match ofWrittenNumber w with
      | .ok t => .ok t
      | .error .yearZero => .error (.dateTime .yearZero)
      | .error _ => ofDateText cs
    | none => ofDateText cs

/-- An offset with optional seconds and their fraction, in microseconds. -/
def fullOffset? (cs : List Char) : Option (Option Int) :=
  match cs with
  | [] => some none
  | ['Z'] => some (some 0)
  | c :: rest => do
    let sign : Int ← if c = '+' then some 1 else if c = '-' then some (-1) else none
    let ((seconds, micros), rest) ← timePart rest
    if rest.isEmpty then some (some (sign * (seconds * microsPerSecond + micros : Nat))) else none

/-- A date-time in the full form. -/
def ofFull? (cs : List Char) : Option DateTime := do
  let (date, rest) ← (datePart cs).toOption
  let (time, offset) ← match rest with
    | [] => some ((0, 0), none)
    | _ :: rest => do
      let (time, rest) ← timePart rest
      let offset ← fullOffset? rest
      some (time, offset)
  let t ← (ofFields date time none).toOption
  return { t with offset }

end DateTime

end BotSentry
