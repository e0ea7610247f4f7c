import BotSentry.Pattern.Syntax
import BotSentry.Text.Quoted

/-!
# Why a pattern is refused

A `Fault` is the cause, `Refusal` adds the place. Three causes are of another kind than a malformed
pattern: a repetition count out of range, a number with too many digits, and two switches that
exclude each other for the whole pattern.
-/

namespace BotSentry.Pattern

inductive Fault where
  | danglingEscape
  | badEscape (escape : List Char)
  | incompleteEscape (escape : List Char)
  | octalTooLarge (escape : List Char)
  | missingBrace
  | missingName (what : String)
  | unterminatedName (closer : Char)
  | undefinedCharacter (name : List Char)
  | badNameCharacter (name : List Char)
  | unknownGroup (name : List Char)
  | duplicateGroup (name : List Char) (group earlier : Nat)
  | invalidReference (group : Nat)
  | badGroupNumber
  | openGroup
  | lookbehindGroup
  | unterminatedSet
  | badRange (lo hi : List Char)
  | nothingToRepeat
  | multipleRepeat
  | repeatReversed
  | unexpectedEnd
  | unknownExtension (text : List Char)
  | unterminatedComment
  | unterminatedGroup
  | unbalancedParenthesis
  | tooManyBranches
  | globalFlagsNotFirst
  | flagsUnclosed
  | missingFlag
  | missingColon
  | unknownFlag
  | localeFlag
  | typeFlagsConflict
  | globalFlagOn
  | globalFlagOff
  | typeFlagOff
  | flagOnAndOff
  | lookbehindWidth
  | lookbehindTooLong
  | templateRepeat (greed : Greed)
  deriving Repr

def Fault.message : Fault → String
  | .danglingEscape => "bad escape (end of pattern)"
  | .badEscape e => "bad escape " ++ String.ofList e
  | .incompleteEscape e => "incomplete escape " ++ String.ofList e
  | .octalTooLarge e =>
    "octal escape value " ++ String.ofList e ++ " outside of range 0-0o377"
  | .missingBrace => "missing \x7b"
  | .missingName what => "missing " ++ what
  | .unterminatedName closer => "missing " ++ closer.toString ++ ", unterminated name"
  | .undefinedCharacter name =>
    "undefined character name " ++ String.ofList (Text.quotedChars name)
  | .badNameCharacter name =>
    "bad character in group name " ++ String.ofList (Text.quotedChars name)
  | .unknownGroup name => "unknown group name " ++ String.ofList (Text.quotedChars name)
  | .duplicateGroup name group earlier =>
    "redefinition of group name " ++ String.ofList (Text.quotedChars name) ++ " as group "
      ++ toString group ++ "; was group " ++ toString earlier
  | .invalidReference group => "invalid group reference " ++ toString group
  | .badGroupNumber => "bad group number"
  | .openGroup => "cannot refer to an open group"
  | .lookbehindGroup => "cannot refer to group defined in the same lookbehind subpattern"
  | .unterminatedSet => "unterminated character set"
  | .badRange lo hi => "bad character range " ++ String.ofList lo ++ "-" ++ String.ofList hi
  | .nothingToRepeat => "nothing to repeat"
  | .multipleRepeat => "multiple repeat"
  | .repeatReversed => "min repeat greater than max repeat"
  | .unexpectedEnd => "unexpected end of pattern"
  | .unknownExtension text => "unknown extension " ++ String.ofList text
  | .unterminatedComment => "missing ), unterminated comment"
  | .unterminatedGroup => "missing ), unterminated subpattern"
  | .unbalancedParenthesis => "unbalanced parenthesis"
  | .tooManyBranches => "conditional backref with more than two branches"
  | .globalFlagsNotFirst => "global flags not at the start of the expression"
  | .flagsUnclosed => "missing -, : or )"
  | .missingFlag => "missing flag"
  | .missingColon => "missing :"
  | .unknownFlag => "unknown flag"
  | .localeFlag => "bad inline flags: cannot use 'L' flag with a str pattern"
  | .typeFlagsConflict => "bad inline flags: flags 'a', 'u' and 'L' are incompatible"
  | .globalFlagOn => "bad inline flags: cannot turn on global flag"
  | .globalFlagOff => "bad inline flags: cannot turn off global flag"
  | .typeFlagOff => "bad inline flags: cannot turn off flags 'a', 'u' and 'L'"
  | .flagOnAndOff => "bad inline flags: flag turned on and off"
  | .lookbehindWidth => "look-behind requires fixed-width pattern"
  | .lookbehindTooLong => "looks too much behind"
  | .templateRepeat .greedy => "internal: unsupported template operator MAX_REPEAT"
  | .templateRepeat .lazy => "internal: unsupported template operator MIN_REPEAT"
  | .templateRepeat .possessive => "internal: unsupported template operator POSSESSIVE_REPEAT"

/-- The outcome of reading a pattern that is not one. -/
inductive Refusal where
  /-- The pattern is malformed, at a position if the fault has one. -/
  | malformed (fault : Fault) (position : Option Nat)
  | countTooLarge
  | numberTooLong (digits : Nat)
  | asciiAndUnicode
  deriving Repr

/-- The line and the column, both from one, of a position in a text. -/
def lineColumn (cs : List Char) (position : Nat) : Nat × Nat :=
  let before := cs.take position
  (before.count '\n' + 1, (before.reverse.takeWhile (· != '\n')).length + 1)

/-- The text of a fault, with its place and, in a pattern of several lines, line and column. -/
def Fault.describe (pattern : List Char) (position : Option Nat) (fault : Fault) : String :=
  match position with
  | none => fault.message
  | some p =>
    let placed := fault.message ++ " at position " ++ toString p
    if pattern.contains '\n' then
      let (line, column) := lineColumn pattern p
      placed ++ " (line " ++ toString line ++ ", column " ++ toString column ++ ")"
    else placed

/-- The text of a refusal of a pattern. -/
def Refusal.message (pattern : List Char) : Refusal → String
  | .malformed fault position =>
    "Invalid bot pattern " ++ String.ofList (Text.quotedChars pattern) ++ ": "
      ++ fault.describe pattern position
  | .countTooLarge => "the repetition number is too large"
  | .numberTooLong digits =>
    "Exceeds the limit (4300 digits) for integer string conversion: value has " ++ toString digits
      ++ " digits; use sys.set_int_max_str_digits() to increase the limit"
  | .asciiAndUnicode => "ASCII and UNICODE flags are incompatible"

end BotSentry.Pattern
