import BotSentry.Pattern.Fault
import BotSentry.Pattern.Width

/-!
# The tokens of a pattern

A token is a character or a backslash with the character after it. Reading keeps the position of
the next token and the groups seen so far. A backslash at the very end is reported as soon as the
token before it has been taken.
-/

namespace BotSentry.Pattern

inductive Token where
  | plain (c : Char)
  | escape (c : Char)
  | dangling
  deriving DecidableEq, Repr

namespace Token

def chars : Token → List Char
  | plain c => [c]
  | escape c => ['\x5c', c]
  | dangling => ['\x5c']

def ofChars : List Char → List Token
  | [] => []
  | ['\x5c'] => [.dangling]
  | '\x5c' :: c :: rest => .escape c :: ofChars rest
  | c :: rest => .plain c :: ofChars rest

end Token

/-- How far a pattern has been read. -/
structure Progress where
  rest : List Token
  position : Nat := 0
  /-- The switches for the whole pattern. -/
  flags : Flags
  /-- Widths of the groups opened so far, absent while a group is open; the first entry stands for
  the whole pattern. -/
  widths : Array (Option (Nat × Nat)) := #[none]
  names : List (List Char × Nat) := []
  /-- Inside a look-behind, the number of groups opened before it. -/
  lookbehind : Option Nat := none
  /-- The group numbers that conditions ask about, with their first positions. -/
  conditions : List (Nat × Nat) := []

abbrev Reading := StateT Progress (Except Refusal)

namespace Reading

def position : Reading Nat := do
  return (← get).position

def refuseAt {α : Type} (fault : Fault) (place : Nat) : Reading α :=
  throw (.malformed fault (some place))

/-- Refuses the pattern `back` characters before the next token. -/
def refuse {α : Type} (fault : Fault) (back : Nat) : Reading α := do
  refuseAt fault ((← position) - back)

def peek : Reading (Option Token) := do
  return (← get).rest.head?

/-- Complains of a backslash at the very end as soon as it is the next token. -/
def checkNext : Reading Unit := do
  if (← peek) = some .dangling then refuse .danglingEscape 0

/-- Takes the next token. -/
def take : Reading (Option Token) := do
  let p ← get
  match p.rest with
  | [] => return none
  | t :: rest =>
    set { p with rest, position := p.position + t.chars.length }
    checkNext
    return some t

/-- Takes the next token if it is the character `c`. -/
def eat (c : Char) : Reading Bool := do
  if (← peek) = some (.plain c) then
    discard take
    return true
  else
    return false

/-- Takes up to `n` characters of the class `p`. -/
def takeWhile (p : Char → Bool) : Nat → Reading (List Char)
  | 0 => return []
  | n + 1 => do
    match ← peek with
    | some (.plain c) =>
      if p c then
        discard take
        return c :: (← takeWhile p n)
      else
        return []
    | _ => return []

/-- Takes the characters of the class `p`. -/
def takeAll (p : Char → Bool) : Reading (List Char) := do
  takeWhile p (← get).rest.length

/-- Takes up to `n` tokens through the character `c`; `false` if the pattern ends first. -/
def skipThrough (c : Char) : Nat → Reading Bool
  | 0 => return false
  | n + 1 => do
    match ← take with
    | none => return false
    | some t =>
      if t = .plain c then
        return true
      else
        skipThrough c n

/-- The characters before `closer`, which is taken too; none if the pattern ends first. -/
def takeUntil (closer : Char) : Nat → Reading (Option (List Char))
  | 0 => return none
  | n + 1 => do
    match ← take with
    | none => return none
    | some t =>
      if t = .plain closer then
        return some []
      else
        return (← takeUntil closer n).map (t.chars ++ ·)

/-- A name that ends at `closer`; `what` it names goes into the complaint. -/
def name (closer : Char) (what : String) : Reading (List Char) := do
  let rest := (← get).rest
  match ← takeUntil closer (rest.length + 1) with
  | some [] => refuse (.missingName what) 1
  | some cs => return cs
  | none =>
    match rest.foldr (·.chars.length + ·) 0 with
    | 0 => refuse (.missingName what) 0
    | left => refuse (.unterminatedName closer) left

/-- Whether group `g` has been closed. -/
def isClosed (g : Nat) : Reading Bool := do
  return ((← get).widths[g]?.join).isSome

def groupWidth : Reading (Nat → Nat × Nat) := do
  let widths := (← get).widths
  return fun g => (widths[g]?.join).getD (0, 0)

/-- Inside a look-behind, only groups closed before it may be mentioned. -/
def checkLookbehind (g : Nat) : Reading Unit := do
  match (← get).lookbehind with
  | none => return
  | some limit =>
    unless ← isClosed g do refuse .openGroup 0
    if limit ≤ g then refuse .lookbehindGroup 0

/-- Opens the next group and gives its number. -/
def openGroup (groupName : Option (List Char)) : Reading Nat := do
  let p ← get
  let g := p.widths.size
  match groupName with
  | none => set { p with widths := p.widths.push none }
  | some n =>
    match p.names.lookup n with
    | some earlier => refuse (.duplicateGroup n g earlier) (n.length + 1)
    | none => set { p with widths := p.widths.push none, names := p.names ++ [(n, g)] }
  return g

def closeGroup (g : Nat) (body : Node) : Reading Unit := do
  let width := body.width (← groupWidth)
  modify fun p => { p with widths := p.widths.set! g (some width) }

end Reading

end BotSentry.Pattern
