import BotSentry.Pattern.Reader

/-!
# Compiled patterns

A pattern that has been read and checked, with its switches and the names of its groups. Letter case
is ignored from the start.
-/

namespace BotSentry

/-- A search pattern: its text, the switches for all of it, and its tree. -/
structure Pattern where
  text : String
  flags : Pattern.Flags
  node : Pattern.Node
  /-- The number of groups. -/
  groups : Nat
  /-- The names of groups, in the order of the groups. -/
  names : List (String × Nat)
  deriving Repr

namespace Pattern

/-- What a tree may hold beyond the grammar: a look-behind has a fixed width, below the count limit,
and no repetition occurs under the template switch. -/
def Node.check (flags : Flags) (groups : Nat → Nat × Nat) : Node → Except Fault Unit
  | .empty | .single _ | .set .. | .any | .anchor _ | .reference _ => .ok ()
  | .seq a b | .alt a b | .conditional _ a b => do
    a.check flags groups
    b.check flags groups
  | .capture _ a | .scoped _ _ a | .atomic a | .lookahead _ a => a.check flags groups
  | .lookbehind _ _ a =>
    let (lo, hi) := a.width groups
    if countLimit < lo then .error .lookbehindTooLong
    else if lo ≠ hi then .error .lookbehindWidth
    else a.check flags groups
  | .repetition greed _ _ a =>
    if flags.contains .template then .error (.templateRepeat greed) else a.check flags groups

/-- Reads a pattern. -/
def ofString (s : String) : Except Refusal Pattern := do
  let start : Progress := { rest := Token.ofChars s.toList, flags := [.ignoreCase] }
  let (node, p) ← Reading.whole.run start
  match node.check p.flags (fun g => (p.widths[g]?.join).getD (0, 0)) with
  | .error fault => throw (.malformed fault none)
  | .ok () =>
    return {
      text := s
      flags := p.flags
      node
      groups := p.widths.size - 1
      names := p.names.map fun (n, g) => (String.ofList n, g) }

end Pattern

end BotSentry
