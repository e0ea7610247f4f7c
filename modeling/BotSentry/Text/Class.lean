import BotSentry.Text.RangeTable
import BotSentry.Text.LetterTable
import BotSentry.Text.IdentifierTable
import BotSentry.Text.PrintTable

/-!
# Character classes

The classes that the other modules consult, on code point numbers. Each states its ASCII part
outright and leaves the rest to a range table.
-/

namespace BotSentry.Text

/-- Blank characters: those that are trimmed from the ends of a text and that separate words. -/
def isBlank (c : Nat) : Bool :=
  (0x09 ≤ c && c ≤ 0x0D) || (0x1C ≤ c && c ≤ 0x20) || c == 0x85 || c == 0xA0 || c == 0x1680
    || (0x2000 ≤ c && c ≤ 0x200A) || c == 0x2028 || c == 0x2029 || c == 0x202F || c == 0x205F
    || c == 0x3000

def isAsciiDigit (c : Nat) : Bool := 0x30 ≤ c && c ≤ 0x39

def isAsciiUpper (c : Nat) : Bool := 0x41 ≤ c && c ≤ 0x5A

def isAsciiLower (c : Nat) : Bool := 0x61 ≤ c && c ≤ 0x7A

def isAsciiLetter (c : Nat) : Bool := isAsciiUpper c || isAsciiLower c

/-- Decimal digits of any script. -/
def isDecimal (c : Nat) : Bool :=
  if c < 0x80 then isAsciiDigit c else inRanges decimalRanges c

/-- The digit that a decimal character stands for. Every run of decimal characters is a sequence
of complete tens, so the digit is the offset in its run modulo ten. -/
def decimalValue (c : Nat) : Nat :=
  if c < 0x80 then c - 0x30
  else
    let i := firstIndex (fun i => c ≤ decimalRanges.getD (2 * i + 1) 0) decimalRanges.size 0
      (decimalRanges.size / 2)
    (c - decimalRanges.getD (2 * i) 0) % 10

def isLetter (c : Nat) : Bool :=
  if c < 0x80 then isAsciiLetter c else inRanges letterRanges c

/-- Letters and characters with a numeric value. -/
def isAlphanumeric (c : Nat) : Bool :=
  if c < 0x80 then isAsciiLetter c || isAsciiDigit c
  else inRanges letterRanges c || inRanges numericRanges c

/-- Word characters: letters, numbers and the underscore. -/
def isWordChar (c : Nat) : Bool := isAlphanumeric c || c == 0x5F

def startsIdentifier (c : Nat) : Bool :=
  c == 0x5F || (isLetter c && !inRanges identifierMissingRanges c)
    || (0x80 ≤ c && inRanges identifierExtraRanges c)

def continuesIdentifier (c : Nat) : Bool :=
  startsIdentifier c || isDecimal c || (0x80 ≤ c && inRanges identifierTailRanges c)

/-- Whether the characters form an identifier. -/
def isIdentifier : List Char → Bool
  | [] => false
  | c :: cs => startsIdentifier c.toNat && cs.all (continuesIdentifier ·.toNat)

/-- Characters that are shown as themselves when a text is quoted. -/
def isPrintable (c : Nat) : Bool :=
  if c < 0x80 then 0x20 ≤ c && c ≤ 0x7E
  else !(0xD800 ≤ c && c < 0xE000) && !inRanges unprintableRanges c

/-- Drops the blank characters at both ends. -/
def trim (cs : List Char) : List Char :=
  ((cs.dropWhile (isBlank ·.toNat)).reverse.dropWhile (isBlank ·.toNat)).reverse

end BotSentry.Text
