/-!
# Search patterns

The syntax tree of a pattern: single characters and character sets, anchors, groups, references to
groups, look-around, alternatives and repetition. Characters are code point numbers, since an escape
may name a lone surrogate.
-/

namespace BotSentry.Pattern

/-- Switches that a pattern turns on and off, for all of it or for a group. -/
inductive Flag where
  | ignoreCase
  | locale
  | multiline
  | dotAll
  | verbose
  | ascii
  | template
  | unicode
  deriving DecidableEq, Repr

abbrev Flags := List Flag

namespace Flag

def ofChar? : Char → Option Flag
  | 'i' => some .ignoreCase
  | 'L' => some .locale
  | 'm' => some .multiline
  | 's' => some .dotAll
  | 'x' => some .verbose
  | 'a' => some .ascii
  | 't' => some .template
  | 'u' => some .unicode
  | _ => none

/-- The switches that choose between the ASCII and the Unicode character classes. -/
def isType : Flag → Bool
  | .ascii | .locale | .unicode => true
  | _ => false

end Flag

/-- The switches inside a group that turns `on` and `off` some of `flags`. -/
def Flags.override (flags on off : Flags) : Flags :=
  let kept := if on.any Flag.isType then flags.filter (!·.isType) else flags
  (kept ++ on).filter (!off.contains ·)

inductive Category where
  | digit
  | space
  | word
  deriving DecidableEq, Repr

/-- A member of a character set. -/
inductive SetItem where
  | single (c : Nat)
  | range (lo hi : Nat)
  | category (category : Category) (negated : Bool)
  deriving DecidableEq, Repr

inductive Anchor where
  | textStart
  | textEnd
  | lineStart
  | lineEnd
  | wordBoundary
  | notWordBoundary
  deriving DecidableEq, Repr

/-- How a repetition chooses its count: as many as possible, as few as possible, or as many as
possible without ever giving one back. -/
inductive Greed where
  | greedy
  | lazy
  | possessive
  deriving DecidableEq, Repr

inductive Node where
  | empty
  | single (c : Nat)
  | set (negated : Bool) (items : List SetItem)
  | any
  | anchor (anchor : Anchor)
  | seq (first second : Node)
  | alt (first second : Node)
  | capture (group : Nat) (body : Node)
  | scoped (on off : Flags) (body : Node)
  | atomic (body : Node)
  | lookahead (negated : Bool) (body : Node)
  | lookbehind (negated : Bool) (width : Nat) (body : Node)
  | reference (group : Nat)
  | conditional (group : Nat) (yes no : Node)
  | repetition (greed : Greed) (min : Nat) (max : Option Nat) (body : Node)
  deriving Repr

namespace Node

def ofList : List Node → Node
  | [] => .empty
  | [n] => n
  | n :: ns => .seq n (ofList ns)

/-- The members of the set that a node is, if it is a character or a set that is not negated. -/
def setItems? : Node → Option (List SetItem)
  | .single c => some [.single c]
  | .set false items => some items
  | .scoped [] [] body => body.setItems?
  | _ => none

def altOfList : List Node → Node
  | [] => .empty
  | [n] => n
  | n :: ns => .alt n (altOfList ns)

/-- Alternatives; several that each match one character of a set are one set. -/
def ofBranches : List Node → Node
  | [] => .empty
  | [n] => n
  | ns =>
    match ns.mapM setItems? with
    | some items => .set false items.flatten
    | none => altOfList ns

def isAnchor : Node → Bool
  | .anchor _ => true
  | _ => false

def isRepetition : Node → Bool
  | .repetition .. => true
  | _ => false

end Node

end BotSentry.Pattern
