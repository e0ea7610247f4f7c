import BotSentry.Pattern.CharTest

/-!
# Matching

A backtracking matcher: a node tries its possibilities in order, each with the rest of the pattern
as continuation, and the first that succeeds wins. An iteration of a repetition beyond the least
count is only tried where the one before it has moved, so that `min + length + 2` bounds the number
of iterations.
-/

namespace BotSentry.Pattern

/-- Where a match stands: its position, and where groups last began and ended. -/
structure Place where
  position : Nat
  starts : List (Nat × Nat) := []
  ends : List (Nat × Nat) := []
  deriving Repr

namespace Place

def enter (p : Place) (group : Nat) : Place :=
  { p with starts := (group, p.position) :: p.starts }

def leave (p : Place) (group : Nat) : Place :=
  { p with ends := (group, p.position) :: p.ends }

/-- Where a group lies that has been matched. -/
def span? (p : Place) (group : Nat) : Option (Nat × Nat) :=
  match p.starts.lookup group, p.ends.lookup group with
  | some b, some e => if b ≤ e then some (b, e) else none
  | _, _ => none

end Place

abbrev Subject := Array Nat

/-- The rest of a match. -/
abbrev Continuation := Place → Option Place

def Anchor.holds (subject : Subject) (mode : Mode) (i : Nat) : Anchor → Bool
  | .textStart => i == 0
  | .textEnd => i == subject.size
  | .lineStart => i == 0 || (mode.multiline && subject[i - 1]? == some 0x0A)
  | .lineEnd =>
    i == subject.size || (subject[i]? == some 0x0A && (mode.multiline || i + 1 == subject.size))
  | .wordBoundary => isBoundary == some true
  | .notWordBoundary => isBoundary == some false
where
  isBoundary : Option Bool :=
    if subject.isEmpty then none
    else
      let before := i != 0 && (subject[i - 1]?.any mode.isWord)
      let after := subject[i]?.any mode.isWord
      some (before != after)

/-- The number of characters from `i` on that pass `test`, at most `n`. -/
def runLength (subject : Subject) (test : Nat → Bool) : Nat → Nat → Nat
  | 0, _ => 0
  | n + 1, i =>
    match subject[i]? with
    | some c => if test c then runLength subject test n (i + 1) + 1 else 0
    | none => 0

/-- Continues after `count` characters, or fewer, down to `least`. -/
def tryDown (k : Continuation) (p : Place) (least : Nat) : Nat → Option Place
  | 0 => if least = 0 then k p else none
  | n + 1 =>
    if n + 1 < least then none
    else k { p with position := p.position + (n + 1) } <|> tryDown k p least n

/-- Continues after `count` characters, or up to `more` more. -/
def tryUp (k : Continuation) (p : Place) : Nat → Nat → Option Place
  | 0, count => k { p with position := p.position + count }
  | more + 1, count =>
    k { p with position := p.position + count } <|> tryUp k p more (count + 1)

/-- A repetition of a node that matches one character. -/
def repeatChar (subject : Subject) (test : Nat → Bool) (greed : Greed) (least : Nat)
    (most : Option Nat) (k : Continuation) (p : Place) : Option Place :=
  let left := subject.size - p.position
  let run := runLength subject test ((most.map (min left)).getD left) p.position
  if run < least then none
  else match greed with
    | .greedy => tryDown k p least run
    | .lazy => tryUp k p (run - least) least
    | .possessive => k { p with position := p.position + run }

/-- One iteration of a repetition, followed by a continuation. -/
abbrev Iteration := Continuation → Continuation

/-- As many iterations as possible; `last` is where the last one beyond the least count began. -/
def repeatGreedy (step : Iteration) (least : Nat) (most : Option Nat) (k : Continuation) :
    Nat → Nat → Option Nat → Continuation
  | 0, _, _, p => k p
  | fuel + 1, count, last, p =>
    if count < least then step (repeatGreedy step least most k fuel (count + 1) last) p
    else if most.all (count < ·) && last != some p.position then
      step (repeatGreedy step least most k fuel (count + 1) (some p.position)) p <|> k p
    else k p

/-- As few iterations as possible. -/
def repeatLazy (step : Iteration) (least : Nat) (most : Option Nat) (k : Continuation) :
    Nat → Nat → Option Nat → Continuation
  | 0, _, _, p => k p
  | fuel + 1, count, last, p =>
    if count < least then step (repeatLazy step least most k fuel (count + 1) last) p
    else if most.all (count < ·) && last != some p.position then
      k p <|> step (repeatLazy step least most k fuel (count + 1) (some p.position)) p
    else k p

/-- As many iterations as possible, none of which is given back. -/
def repeatPossessive (step : Iteration) (least : Nat) (most : Option Nat) :
    Nat → Nat → Place → Option Place
  | 0, _, p => some p
  | fuel + 1, count, p =>
    if count < least then
      (step some p).bind (repeatPossessive step least most fuel (count + 1))
    else if most.all (count < ·) then
      match step some p with
      | none => some p
      | some q =>
        if q.position = p.position then some q
        else repeatPossessive step least most fuel (count + 1) q
    else some p

/-- Whether the group's text is repeated at `i`. -/
def sameText (subject : Subject) (mode : Mode) : Nat → Nat → Nat → Bool
  | 0, _, _ => true
  | n + 1, b, i =>
    match subject[b]?, subject[i]? with
    | some c, some d =>
      (if mode.ignoreCase then mode.lower c == mode.lower d else c == d)
        && sameText subject mode n (b + 1) (i + 1)
    | _, _ => false

/-- Matches a node at a place, and then the rest. -/
def Node.run (subject : Subject) : Node → Flags → Iteration
  | .empty, _, k, p => k p
  | .single a, flags, k, p =>
    match subject[p.position]? with
    | some c =>
      if singleMatches (Mode.ofFlags flags) a c then k { p with position := p.position + 1 }
      else none
    | none => none
  | .any, flags, k, p =>
    match subject[p.position]? with
    | some c =>
      if flags.contains .dotAll || c != 0x0A then k { p with position := p.position + 1 } else none
    | none => none
  | .set negated items, flags, k, p =>
    match subject[p.position]? with
    | some c =>
      if items.any (·.admits (Mode.ofFlags flags) c) != negated then
        k { p with position := p.position + 1 }
      else none
    | none => none
  | .anchor a, flags, k, p =>
    if a.holds subject (Mode.ofFlags flags) p.position then k p else none
  | .seq a b, flags, k, p => a.run subject flags (b.run subject flags k) p
  | .alt a b, flags, k, p => a.run subject flags k p <|> b.run subject flags k p
  | .capture g a, flags, k, p => a.run subject flags (fun q => k (q.leave g)) (p.enter g)
  | .scoped on off a, flags, k, p => a.run subject (flags.override on off) k p
  | .atomic a, flags, k, p => (a.run subject flags some p).bind k
  | .lookahead negated a, flags, k, p =>
    match negated, a.run subject flags some p with
    | false, some q => k { q with position := p.position }
    | true, none => k p
    | _, _ => none
  | .lookbehind negated width a, flags, k, p =>
    let found := if p.position < width then none
      else a.run subject flags some { p with position := p.position - width }
    match negated, found with
    | false, some q => k { q with position := p.position }
    | true, none => k p
    | _, _ => none
  | .reference g, flags, k, p =>
    match p.span? g with
    | some (b, e) =>
      if sameText subject (Mode.ofFlags flags) (e - b) b p.position then
        k { p with position := p.position + (e - b) }
      else none
    | none => none
  | .conditional g yes no, flags, k, p =>
    if (p.span? g).isSome then yes.run subject flags k p else no.run subject flags k p
  | .repetition greed least most a, flags, k, p =>
    match a.charTest? (Mode.ofFlags flags) with
    | some test => repeatChar subject test greed least most k p
    | none =>
      let fuel := least + (subject.size - p.position) + 2
      let step : Iteration := a.run subject flags
      match greed with
      | .greedy => repeatGreedy step least most k fuel 0 none p
      | .lazy => repeatLazy step least most k fuel 0 none p
      | .possessive => (repeatPossessive step least most fuel 0 p).bind k

/-- The first match that begins at `i` or later, trying `n + 1` beginnings. -/
def searchFrom (pattern : Pattern) (subject : Subject) : Nat → Nat → Option Place
  | 0, i => pattern.node.run subject pattern.flags some { position := i }
  | n + 1, i =>
    pattern.node.run subject pattern.flags some { position := i }
      <|> searchFrom pattern subject n (i + 1)

/-- Whether the pattern matches somewhere in the text. -/
def occursIn (pattern : Pattern) (s : String) : Bool :=
  let subject := (s.toList.map Char.toNat).toArray
  (searchFrom pattern subject subject.size 0).isSome

/-- Whether the pattern matches at the beginning of the text. -/
def begins (pattern : Pattern) (cs : List Char) : Bool :=
  (pattern.node.run (cs.map Char.toNat).toArray pattern.flags some { position := 0 }).isSome

end BotSentry.Pattern
