import BotSentry.Pattern.Compiled
import BotSentry.Text.Case

/-!
# Tests of one character

Which characters a single-character node matches, under the switches in force. Where letter case is
ignored, characters are compared in lower case, and lower-case letters with the same capital are
equal. A set compares the members of the first plane in this way; for the characters beyond it, a
single member is compared as it is written, and a range with the character or its capital.
-/

namespace BotSentry.Pattern

/-- The switches that a match consults. -/
structure Mode where
  ignoreCase : Bool
  multiline : Bool
  dotAll : Bool
  ascii : Bool
  deriving DecidableEq, Repr

def Mode.ofFlags (flags : Flags) : Mode where
  ignoreCase := flags.contains .ignoreCase
  multiline := flags.contains .multiline
  dotAll := flags.contains .dotAll
  ascii := flags.contains .ascii

namespace Mode

/-- Lower case, of the ASCII letters alone under the ASCII switch. -/
def lower (mode : Mode) (c : Nat) : Nat :=
  if mode.ascii then (if Text.isAsciiUpper c then c + 32 else c) else Text.lowerCode c

/-- The lower-case letters equal to `c` apart from case. -/
def equals (mode : Mode) (c : Nat) : List Nat :=
  if mode.ascii then [c] else Text.caseClass c

/-- The characters whose lower case is `c`. -/
def sources (mode : Mode) (c : Nat) : List Nat :=
  if mode.ascii then
    if Text.isAsciiLower c then [c, c - 32] else if Text.isAsciiUpper c then [] else [c]
  else Text.lowerSources c

def isWord (mode : Mode) (c : Nat) : Bool :=
  if mode.ascii then c < 0x80 && Text.isWordChar c else Text.isWordChar c

def inCategory (mode : Mode) (c : Nat) : Category → Bool
  | .digit => if mode.ascii then Text.isAsciiDigit c else Text.isDecimal c
  | .space => if mode.ascii then c == 0x20 || (0x09 ≤ c && c ≤ 0x0D) else Text.isBlank c
  | .word => mode.isWord c

end Mode

/-- The last code point of the first plane. -/
def planeEnd : Nat := 0xFFFF

/-- Whether the literal `a` matches `c`. -/
def singleMatches (mode : Mode) (a c : Nat) : Bool :=
  if mode.ignoreCase then
    let lc := mode.lower c
    let la := mode.lower a
    lc == la || (mode.equals la).contains lc
  else a == c

/-- Whether `c` equals, apart from case, a character of the first plane between `lo` and `hi`. -/
def foldedInRange (mode : Mode) (lo hi c : Nat) : Bool :=
  let hi := min hi planeEnd
  let lc := mode.lower c
  (lo ≤ c && c ≤ hi)
    || (mode.equals lc).any fun e => (mode.sources e).any fun s => lo ≤ s && s ≤ hi

def SetItem.admits (mode : Mode) (c : Nat) : SetItem → Bool
  | .single a =>
    if mode.ignoreCase && planeEnd < a then a == mode.lower c else singleMatches mode a c
  | .range lo hi =>
    if mode.ignoreCase then
      let lc := mode.lower c
      let up := Text.upperCode lc
      foldedInRange mode lo hi c
        || (planeEnd < hi && ((lo ≤ lc && lc ≤ hi) || (lo ≤ up && up ≤ hi)))
    else lo ≤ c && c ≤ hi
  | .category kind negated => mode.inCategory c kind != negated

/-- The test of a node that matches one character. -/
def Node.charTest? (mode : Mode) : Node → Option (Nat → Bool)
  | .single a => some (singleMatches mode a)
  | .any => some fun c => mode.dotAll || c != 0x0A
  | .set negated items => some fun c => items.any (·.admits mode c) != negated
  | .scoped [] [] body => body.charTest? mode
  | _ => none

end BotSentry.Pattern
