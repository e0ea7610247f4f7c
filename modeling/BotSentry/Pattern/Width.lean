import BotSentry.Pattern.Syntax

/-!
# How much text a pattern covers

The least and the greatest number of characters that a node can match, both cut off at `maxWidth`.
-/

namespace BotSentry.Pattern

/-- The bound at which widths are cut off. -/
def maxWidth : Nat := 0x10000000000000000

/-- The bound at which a repetition count is too large; an unbounded repetition counts as this
many. -/
def countLimit : Nat := 0xFFFFFFFF

/-- The least and the greatest width, given those of the groups. -/
def Node.width (groups : Nat → Nat × Nat) : Node → Nat × Nat
  | .empty | .anchor _ | .lookahead .. | .lookbehind .. => (0, 0)
  | .single _ | .set .. | .any => (1, 1)
  | .seq a b =>
    let (lo, hi) := a.width groups
    let (lo', hi') := b.width groups
    (min (lo + lo') maxWidth, min (hi + hi') maxWidth)
  | .alt a b =>
    let (lo, hi) := a.width groups
    let (lo', hi') := b.width groups
    (min lo lo', max hi hi')
  | .capture _ a | .scoped _ _ a | .atomic a => a.width groups
  | .reference g => groups g
  | .conditional _ a b =>
    let (lo, hi) := a.width groups
    let (lo', hi') := b.width groups
    (min lo lo', max hi hi')
  | .repetition _ least most a =>
    let (lo, hi) := a.width groups
    let top := match most with
      | none => if hi = 0 then 0 else maxWidth
      | some m => hi * m
    (min (lo * least) maxWidth, min top maxWidth)

end BotSentry.Pattern
