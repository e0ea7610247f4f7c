import BotSentry.Pattern.Token
import BotSentry.Text.Class
import BotSentry.Text.NameTable

/-!
# Escapes

What a backslash means: a character by its code or name, a category, an anchor or a reference to a
group. Inside a character set there are no anchors and no references.
-/

namespace BotSentry.Pattern

/-- The value of the digits `cs` in the given base. -/
def digitsValue (base : Nat) (cs : List Char) : Nat :=
  cs.foldl (fun n c => n * base + (if c.isDigit then c.toNat - 0x30 else c.toNat % 32 + 9)) 0

def isHexDigit (c : Char) : Bool :=
  c.isDigit || ('a' ≤ c && c ≤ 'f') || ('A' ≤ c && c ≤ 'F')

def isOctalDigit (c : Char) : Bool := '0' ≤ c && c ≤ '7'

def isAsciiLetter (c : Char) : Bool := Text.isAsciiLetter c.toNat

/-- The character that a simple escape names. -/
def simpleEscape? : Char → Option Nat
  | 'a' => some 7
  | 'b' => some 8
  | 'f' => some 12
  | 'n' => some 10
  | 'r' => some 13
  | 't' => some 9
  | 'v' => some 11
  | '\x5c' => some 0x5C
  | _ => none

def categoryEscape? : Char → Option SetItem
  | 'd' => some (.category .digit false)
  | 'D' => some (.category .digit true)
  | 's' => some (.category .space false)
  | 'S' => some (.category .space true)
  | 'w' => some (.category .word false)
  | 'W' => some (.category .word true)
  | _ => none

def anchorEscape? : Char → Option Anchor
  | 'A' => some .textStart
  | 'Z' => some .textEnd
  | 'b' => some .wordBoundary
  | 'B' => some .notWordBoundary
  | _ => none

/-- The character with a name, in any case. -/
def characterNamed? (name : List Char) : Option Nat :=
  Text.codeOfName? (String.ofList (name.map Char.toUpper))

namespace Reading

/-- A character by exactly `n` hexadecimal digits. -/
def hexEscape (c : Char) (n : Nat) : Reading Nat := do
  let ds ← takeWhile isHexDigit n
  let escape := '\x5c' :: c :: ds
  if ds.length ≠ n then refuse (.incompleteEscape escape) escape.length
  let value := digitsValue 16 ds
  if 0x10FFFF < value then refuse (.badEscape escape) escape.length
  return value

def nameEscape : Reading Nat := do
  unless ← eat '\x7b' do refuse .missingBrace 0
  let characterName ← name '\x7d' "character name"
  match characterNamed? characterName with
  | some c => return c
  | none => refuse (.undefinedCharacter characterName) (characterName.length + 4)

/-- The escapes for one character that are alike inside and outside of a set, after those that
differ. -/
def characterEscape (c : Char) : Reading Nat := do
  match c with
  | 'x' => hexEscape c 2
  | 'u' => hexEscape c 4
  | 'U' => hexEscape c 8
  | 'N' => nameEscape
  | _ =>
    if isAsciiLetter c || c.isDigit then refuse (.badEscape ['\x5c', c]) 2
    else return c.toNat

/-- The value of the octal digits `ds`, at most 255. -/
def octalEscape (ds : List Char) : Reading Nat := do
  let value := digitsValue 8 ds
  if 0xFF < value then
    let escape := '\x5c' :: ds
    refuse (.octalTooLarge escape) escape.length
  return value

/-- A backslash and `c` inside a character set. -/
def setEscape (c : Char) : Reading SetItem := do
  if let some code := simpleEscape? c then return .single code
  if let some item := categoryEscape? c then return item
  if isOctalDigit c then return .single (← octalEscape (c :: (← takeWhile isOctalDigit 2)))
  return .single (← characterEscape c)

/-- A reference to the group whose number has the digits `ds`. -/
def groupEscape (ds : List Char) : Reading Node := do
  let group := digitsValue 10 ds
  unless group < (← get).widths.size do refuse (.invalidReference group) ds.length
  unless ← isClosed group do refuse .openGroup (ds.length + 1)
  checkLookbehind group
  return .reference group

/-- A backslash and the digit `c`, which is not zero: three octal digits name a character, and
otherwise one or two digits name a group. -/
def digitEscape (c : Char) : Reading Node := do
  match ← takeWhile Char.isDigit 1 with
  | [d] =>
    if isOctalDigit c && isOctalDigit d then
      match ← takeWhile isOctalDigit 1 with
      | [e] => return .single (← octalEscape [c, d, e])
      | _ => groupEscape [c, d]
    else groupEscape [c, d]
  | _ => groupEscape [c]

/-- A backslash and `c` outside of character sets. -/
def escape (c : Char) : Reading Node := do
  if let some anchor := anchorEscape? c then return .anchor anchor
  if let some item := categoryEscape? c then return .set false [item]
  if let some code := simpleEscape? c then return .single code
  if c = '0' then return .single (digitsValue 8 (← takeWhile isOctalDigit 2))
  if c.isDigit then digitEscape c
  else return .single (← characterEscape c)

end Reading

end BotSentry.Pattern
