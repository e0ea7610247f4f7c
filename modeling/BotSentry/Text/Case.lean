import BotSentry.Text.Class
import BotSentry.Text.CaseTable

/-!
# Letter case

`lowerCode` and `upperCode` map one code point to the first of its case mapping; `lower` maps a whole
text, where a capital dotted I becomes two characters and a capital sigma depends on its context.
-/

namespace BotSentry.Text

/-- The image of `c` under the runs `lo, hi, step, image` of `table`. -/
def mapRuns (table : Array Nat) (c : Nat) : Nat :=
  let i := firstIndex (fun i => c ≤ table.getD (4 * i + 1) 0) table.size 0 (table.size / 4)
  match table[4 * i]?, table[4 * i + 2]?, table[4 * i + 3]? with
  | some lo, some step, some image =>
    if lo ≤ c && (c - lo) % step == 0 then image + (c - lo) else c
  | _, _, _ => c

def lowerCode (c : Nat) : Nat :=
  if c < 0x80 then (if isAsciiUpper c then c + 32 else c) else mapRuns lowerRuns c

def upperCode (c : Nat) : Nat :=
  if c < 0x80 then (if isAsciiLower c then c - 32 else c) else mapRuns upperRuns c

/-- Whether some case mapping changes `c`. -/
def hasCase (c : Nat) : Bool := lowerCode c != c || upperCode c != c

/-- The code points whose lower case is `c`. -/
def lowerSources (c : Nat) : List Nat :=
  let own := if lowerCode c = c then [c] else []
  let ascii := if isAsciiLower c then [c - 32] else []
  let rec scan : List Nat → List Nat
    | lo :: hi :: step :: image :: rest =>
      if image ≤ c && c ≤ image + (hi - lo) && (c - image) % step == 0 then
        (lo + (c - image)) :: scan rest
      else scan rest
    | _ => []
  own ++ ascii ++ scan lowerRuns.toList

/-- Classes of different lower-case letters with the same capital. -/
def caseClasses : List (List Nat) :=
  [[0x69, 0x131], [0x73, 0x17F], [0xB5, 0x3BC], [0x345, 0x3B9, 0x1FBE], [0x390, 0x1FD3],
    [0x3B0, 0x1FE3], [0x3B2, 0x3D0], [0x3B5, 0x3F5], [0x3B8, 0x3D1], [0x3BA, 0x3F0],
    [0x3C0, 0x3D6], [0x3C1, 0x3F1], [0x3C2, 0x3C3], [0x3C6, 0x3D5], [0x432, 0x1C80],
    [0x434, 0x1C81], [0x43E, 0x1C82], [0x441, 0x1C83], [0x442, 0x1C84, 0x1C85], [0x44A, 0x1C86],
    [0x463, 0x1C87], [0x1C88, 0xA64B], [0x1E61, 0x1E9B], [0xFB05, 0xFB06]]

/-- The lower-case letters that are equal to the lower-case letter `c` apart from case. -/
def caseClass (c : Nat) : List Nat :=
  (caseClasses.find? (·.contains c)).getD [c]

def isCaseIgnorable (c : Nat) : Bool :=
  if c < 0x80 then c == 0x27 || c == 0x2E || c == 0x3A || c == 0x5E || c == 0x60
  else inRanges caseIgnorableRanges c

/-- Cased, and not skipped by case contexts. -/
def isCased (c : Nat) : Bool :=
  if c < 0x80 then isAsciiLetter c else inRanges casedRanges c

/-- Whether the first character that case contexts do not skip is cased. -/
def casedNext : List Char → Bool
  | [] => false
  | c :: cs => if isCaseIgnorable c.toNat then casedNext cs else isCased c.toNat

/-- Lower case of `after`, which follows the reversed `before`. A capital sigma is final when a cased
character precedes it and none follows. -/
def lowerFrom : List Char → List Char → List Char
  | _, [] => []
  | before, c :: after =>
    let mapped :=
      if c.toNat = 0x3A3 then
        if casedNext before && !casedNext after then [Char.ofNat 0x3C2] else [Char.ofNat 0x3C3]
      else if c.toNat = 0x130 then ['i', Char.ofNat 0x307]
      else [Char.ofNat (lowerCode c.toNat)]
    mapped ++ lowerFrom (c :: before) after

def lowerChars (cs : List Char) : List Char := lowerFrom [] cs

def lower (s : String) : String := String.ofList (lowerChars s.toList)

end BotSentry.Text
