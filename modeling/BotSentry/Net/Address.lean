/-!
# Internet addresses

The written forms of IPv4 and IPv6 addresses. Numbers of an IPv4 address have no leading zeros; an
IPv6 address may leave out one run of zeros, end in an IPv4 address, and name a zone.
-/

namespace BotSentry

inductive Address where
  | v4 (number : Nat)
  | v6 (number : Nat) (zone : Option (List Char))
  deriving DecidableEq, Repr

namespace Address

/-- The parts of a text between separators. -/
def splitAt (sep : Char) : List Char → List (List Char)
  | [] => [[]]
  | c :: rest =>
    if c = sep then [] :: splitAt sep rest
    else match splitAt sep rest with
      | [] => [[c]]
      | part :: parts => (c :: part) :: parts

def digitsValue (base : Nat) (digit : Char → Nat) (ds : List Char) : Nat :=
  ds.foldl (fun n c => n * base + digit c) 0

/-- One of the four numbers of an IPv4 address. -/
def octet? (ds : List Char) : Option Nat :=
  if ds.isEmpty || !ds.all Char.isDigit || 3 < ds.length || (1 < ds.length && ds.head? = some '0') then
    none
  else
    let n := digitsValue 10 (fun c => c.toNat - 0x30) ds
    if n ≤ 255 then some n else none

/-- The number of an IPv4 address. -/
def v4? (cs : List Char) : Option Nat := do
  match ← (splitAt '.' cs).mapM octet? with
  | [a, b, c, d] => some (((a * 256 + b) * 256 + c) * 256 + d)
  | _ => none

def isHex (c : Char) : Bool :=
  c.isDigit || ('a' ≤ c && c ≤ 'f') || ('A' ≤ c && c ≤ 'F')

def hexDigit (c : Char) : Nat := if c.isDigit then c.toNat - 0x30 else c.toNat % 32 + 9

/-- One of the eight numbers of an IPv6 address. -/
def hextet? (ds : List Char) : Option Nat :=
  if ds.isEmpty || 4 < ds.length || !ds.all isHex then none
  else some (digitsValue 16 hexDigit ds)

/-- The parts between colons as numbers, an IPv4 address at the end as two. An empty part stays
empty. -/
def groups? : List (List Char) → Option (List (Option Nat))
  | [] => some []
  | [last] =>
    if last.isEmpty then some [none]
    else if last.contains '.' then do
      let n ← v4? last
      return [some (n / 65536), some (n % 65536)]
    else do return [some (← hextet? last)]
  | part :: rest => do
    let head ← if part.isEmpty then some none else (hextet? part).map some
    return head :: (← groups? rest)

/-- The numbers before the first empty part and what follows it. -/
def untilGap : List (Option Nat) → List Nat × Option (List (Option Nat))
  | [] => ([], none)
  | none :: rest => ([], some rest)
  | some n :: rest =>
    let (before, after) := untilGap rest
    (n :: before, after)

/-- The eight numbers of an address: a gap between two colons stands for one zero or more. -/
def expand? (parts : List (Option Nat)) : Option (List Nat) :=
  -- a gap at either end of the address is written with two empty parts
  let inner? : Option (List (Option Nat)) :=
    match parts with
    | [none, none, none] => some [none]
    | none :: none :: rest => some (none :: rest)
    | none :: _ => none
    | _ => some parts
  inner?.bind fun parts =>
    let parts? :=
      match parts.reverse with
      | [none] => some parts
      | none :: none :: rest => some (none :: rest).reverse
      | none :: _ => none
      | _ => some parts
    parts?.bind fun parts =>
      match untilGap parts with
      | (before, none) => if before.length = 8 then some before else none
      | (before, some rest) =>
        match rest.mapM id with
        | none => none
        | some after =>
          let present := before.length + after.length
          if present < 8 then some (before ++ List.replicate (8 - present) 0 ++ after) else none

/-- The number of an IPv6 address without a zone. -/
def v6? (cs : List Char) : Option Nat := do
  let parts := splitAt ':' cs
  if parts.length < 3 then none
  else
    let numbers ← expand? (← groups? parts)
    return numbers.foldl (fun n g => n * 65536 + g) 0

/-- Reads an address. -/
def ofChars? (cs : List Char) : Option Address :=
  if cs.contains '/' then none
  else match v4? cs with
    | some n => some (.v4 n)
    | none =>
      let plain := cs.takeWhile (· != '%')
      match cs.drop plain.length with
      | [] => (v6? plain).map (.v6 · none)
      | _ :: zone =>
        if zone.isEmpty || zone.contains '%' then none else (v6? plain).map (.v6 · (some zone))

/-- Whether the address is one of the host itself. -/
def isLoopback : Address → Bool
  | .v4 n => n / 0x1000000 = 127
  | .v6 n _ => n = 1

end Address

end BotSentry
