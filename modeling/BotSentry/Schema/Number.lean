import BotSentry.Schema.Checked

/-!
# Numbers in settings

Whole numbers and doubles, also written as texts: with blanks around them, with single underscores
between digits, and a whole number with zeros after a point.
-/

namespace BotSentry.Schema

/-- White space around a written number. -/
def isWhite (c : Char) : Bool := Text.isBlank c.toNat && !(0x1C ≤ c.toNat && c.toNat ≤ 0x1F)

def trimWhite (cs : List Char) : List Char :=
  ((cs.dropWhile isWhite).reverse.dropWhile isWhite).reverse

def hasDoubleUnderscore : List Char → Bool
  | '_' :: '_' :: _ => true
  | _ :: rest => hasDoubleUnderscore rest
  | [] => false

/-- A text without its underscores, if none is at an end or beside another. -/
def joinDigits? (cs : List Char) : Option (List Char) :=
  if cs.head? = some '_' || cs.getLast? = some '_' || hasDoubleUnderscore cs then none
  else some (cs.filter (· != '_'))

/-- Drops a plus sign, unless a minus sign follows. -/
def dropPlus? : List Char → Option (List Char)
  | '+' :: '-' :: _ => none
  | '+' :: rest => some rest
  | cs => some cs

/-- Drops zeros at the start, and underscores among them, up to the last digit before a point. -/
def dropZeros? : List Char → Option (List Char)
  | '0' :: rest =>
    let zeros := rest.takeWhile fun c => c = '0' || c = '_'
    match rest.drop zeros.length with
    | [] => some [((('0' :: zeros).getLast?).getD '0')]
    | '.' :: after => some (((('0' :: zeros).getLast?).getD '0') :: '.' :: after)
    | c :: after => if Json.isDigit c then some (c :: after) else none
  | c :: rest => if Json.isDigit c || c = '-' then some (c :: rest) else none
  | [] => none

/-- Drops a point with zeros after it. -/
def dropFraction (cs : List Char) : List Char :=
  let whole := cs.takeWhile (· != '.')
  if (cs.drop (whole.length + 1)).all (· = '0') then whole else cs

/-- A whole number of plain digits, without zeros at the start. -/
def plainInt (cs : List Char) : Checked Int :=
  let (negative, ds) : Bool × List Char := match cs with
    | '-' :: rest => (true, rest)
    | _ => (false, cs)
  let digits := ds.takeWhile Json.isDigit
  if Json.digitLimit < digits.length then .issue .intTooLong
  else if ds.isEmpty || digits.length != ds.length || (ds.head? = some '0' && 1 < ds.length) then
    .issue .unreadableInt
  else
    let n : Int := Decimal.ofDigits ds
    .ok (if negative then -n else n)

def readInt (cs : List Char) : Checked Int :=
  match (dropPlus? (trimWhite cs)).bind dropZeros? with
  | some rest =>
    match joinDigits? (dropFraction rest) with
    | some ds => plainInt ds
    | none => .issue .unreadableInt
  | none => .issue .unreadableInt

/-- A whole number. -/
def int : Json → Checked Int
  | .bool b => .ok (if b then 1 else 0)
  | .int n => .ok n
  | .float x =>
    if x.isNaN || x.isInf then .issue .notFinite
    else if x.floor != x then .issue .fractionalInt
    else match wholeFloat? x with
      | some n => .ok n
      | none => .issue .intTooLong
  | .str t =>
    match t.toChars? with
    | some cs => readInt cs
    | none => .issue .notUnicode
  | _ => .issue .notInt

/-- A whole number between two bounds. -/
def intBetween (least most : Int) (v : Json) : Checked Int :=
  (int v).bind fun n =>
    if n < least then .issue (.tooSmall least)
    else if most < n then .issue (.tooLarge most)
    else .ok n

/-- An exponent: nothing, or a letter, a sign and digits. -/
def exponent? : List Char → Option Int
  | [] => some 0
  | c :: rest =>
    if c = 'e' || c = 'E' then
      let (negative, ds) : Bool × List Char := match rest with
        | '-' :: ds => (true, ds)
        | '+' :: ds => (false, ds)
        | ds => (false, ds)
      if ds.isEmpty || !ds.all Json.isDigit then none
      else
        let n : Int := Decimal.ofDigits ds
        some (if negative then -n else n)
    else none

/-- The size of a double: a name, or digits with a point among them or beside them. -/
def size? (cs : List Char) : Option Float :=
  let name := String.ofList (cs.map Char.toLower)
  if name = "inf" || name = "infinity" then some (1.0 / 0.0)
  else if name = "nan" then some (0.0 / 0.0)
  else
    let whole := cs.takeWhile Json.isDigit
    let rest := cs.drop whole.length
    let (fraction, rest) := match rest with
      | '.' :: after => (after.takeWhile Json.isDigit, after.dropWhile Json.isDigit)
      | _ => ([], rest)
    if whole.isEmpty && fraction.isEmpty then none
    else (exponent? rest).map fun e => (Decimal.ofParts false whole fraction e).toFloat

def signedSize? : List Char → Option Float
  | '-' :: rest => (size? rest).map (- ·)
  | '+' :: rest => size? rest
  | cs => size? cs

def readFloat (cs : List Char) : Checked Float :=
  match signedSize? (trimWhite cs) <|> ((joinDigits? cs).map trimWhite).bind signedSize? with
  | some x => .ok x
  | none => .issue .unreadableFloat

/-- A double. -/
def float : Json → Checked Float
  | .bool b => .ok (if b then 1.0 else 0.0)
  | .int n =>
    let x := Float.ofInt n
    if x.isInf then .issue .notFloat else .ok x
  | .float x => .ok x
  | .str t =>
    match t.toChars? with
    | some cs => readFloat cs
    | none => .issue .notUnicode
  | _ => .issue .notFloat

end BotSentry.Schema
