import BotSentry.Pattern.Escape

/-!
# Reading a pattern

The reader follows the grammar: alternatives between bars, each a sequence of items, an item being
a character, a set, an anchor, a group or a repetition of the item before it. White space and
comments are skipped where the verbose switch is on. The amount of fuel is the number of tokens, of
which every nested sequence takes at least one.
-/

namespace BotSentry.Pattern

namespace Reading

/-- The letters of the switches that a group turns on, after the first one, and what ends them. -/
def switchesOn : Nat → Char → Flags → Reading (Flags × Char)
  | 0, _, on => return (on, ':')
  | n + 1, c, on => do
    match Flag.ofChar? c with
    | none => refuse .unknownFlag 1
    | some .locale => refuse .localeFlag 0
    | some flag =>
      if flag.isType && on.any (fun f => f.isType && f != flag) then
        refuse .typeFlagsConflict 0
      let on := on ++ [flag]
      match ← take with
      | none => refuse .flagsUnclosed 0
      | some (.plain d) =>
        if d = ')' || d = '-' || d = ':' then return (on, d)
        if (Flag.ofChar? d).isNone then
          refuse (if Text.isLetter d.toNat then .unknownFlag else .flagsUnclosed) 1
        switchesOn n d on
      | some t => refuse .flagsUnclosed t.chars.length

/-- The letters of the switches that a group turns off, through the colon. -/
def switchesOff : Nat → Char → Flags → Reading Flags
  | 0, _, off => return off
  | n + 1, c, off => do
    match Flag.ofChar? c with
    | none => refuse .unknownFlag 1
    | some flag =>
      if flag.isType then refuse .typeFlagOff 0
      let off := off ++ [flag]
      match ← take with
      | none => refuse .missingColon 0
      | some (.plain d) =>
        if d = ':' then return off
        if (Flag.ofChar? d).isNone then
          refuse (if Text.isLetter d.toNat then .unknownFlag else .missingColon) 1
        switchesOff n d off
      | some t => refuse .missingColon t.chars.length

/-- The switches that start with `c`: those turned on and off for a group, or nothing if they were
switches for the whole pattern. -/
def switches (c : Char) : Reading (Option (Flags × Flags)) := do
  let fuel := (← get).rest.length + 1
  let (on, closer) ← if c = '-' then pure ([], c) else switchesOn fuel c []
  if closer = ')' then
    modify fun p => { p with flags := p.flags ++ on }
    return none
  if on.contains .template then refuse .globalFlagOn 1
  let off ← if closer = '-' then
      match ← take with
      | none => refuse .missingFlag 0
      | some (.plain d) =>
        if (Flag.ofChar? d).isNone then
          refuse (if Text.isLetter d.toNat then .unknownFlag else .missingFlag) 1
        switchesOff fuel d []
      | some t => refuse .missingFlag t.chars.length
    else pure []
  if off.contains .template then refuse .globalFlagOff 1
  if on.any off.contains then refuse .flagOnAndOff 1
  return some (on, off)

/-- One end of a range, or a member of a set. -/
def setMember : Token → Reading SetItem
  | .plain c => return .single c.toNat
  | .escape c => setEscape c
  | .dangling => return .single 0x5C

/-- The members of the set that opened at `start`, through its closing bracket. A bracket that is
`first` is a member. -/
def setMembers (start : Nat) : Nat → Bool → Reading (List SetItem)
  | 0, _ => refuseAt .unterminatedSet start
  | n + 1, first => do
    match ← take with
    | none => refuseAt .unterminatedSet start
    | some low =>
      if low = .plain ']' && !first then return []
      let a ← setMember low
      if ← eat '-' then
        match ← take with
        | none => refuseAt .unterminatedSet start
        | some high =>
          if high = .plain ']' then return [a, .single 0x2D]
          let bad := Fault.badRange low.chars high.chars
          let back := low.chars.length + 1 + high.chars.length
          match a, ← setMember high with
          | .single lo, .single hi =>
            if hi < lo then refuse bad back
            return .range lo hi :: (← setMembers start n false)
          | _, _ => refuse bad back
      else return a :: (← setMembers start n false)

/-- The set whose bracket stood at `start`. Members that are repeated count once, and a single
character alone is no set. -/
def set (start : Nat) : Reading Node := do
  let negated ← eat '^'
  match (← setMembers start ((← get).rest.length + 1) true).eraseDups with
  | [.single c] => return if negated then .set true [.single c] else .single c
  | items => return .set negated items

/-- A repetition count; the empty text leaves it open. -/
def count (ds : List Char) : Reading (Option Nat) := do
  if ds.isEmpty then return none
  if 4300 < ds.length then throw (.numberTooLong ds.length)
  let n := digitsValue 10 ds
  if countLimit ≤ n then throw .countTooLarge
  return some n

/-- The bounds between braces, after the opening one at `start`. Without the form of bounds nothing
is taken, and the brace stands for itself. -/
def bounds (start : Nat) : Reading (Option (Nat × Option Nat)) := do
  if (← peek) = some (.plain '\x7d') then return none
  let before ← get
  let lo ← takeAll Char.isDigit
  let hi ← if ← eat ',' then takeAll Char.isDigit else pure lo
  unless ← eat '\x7d' do
    MonadState.set before
    return none
  let least := (← count lo).getD 0
  let most ← count hi
  if most.any (· < least) then refuseAt .repeatReversed (start + 1)
  return some (least, most)

/-- How often the operator `c` at `start` repeats, if it is one. -/
def repeatBounds (c : Char) (start : Nat) : Reading (Option (Nat × Option Nat)) := do
  match c with
  | '?' => return some (0, some 1)
  | '*' => return some (0, none)
  | '+' => return some (1, none)
  | _ => bounds start

/-- How a repetition chooses its count. -/
def greed : Reading Greed := do
  if ← eat '?' then return .lazy
  if ← eat '+' then return .possessive
  return .greedy

/-- The repetition of the last item of the reversed sequence `acc`. -/
def repetition (start least : Nat) (most : Option Nat) : List Node → Reading (List Node)
  | [] => refuseAt .nothingToRepeat start
  | last :: before => do
    if last.isAnchor then refuseAt .nothingToRepeat start
    if last.isRepetition then refuseAt .multipleRepeat start
    return .repetition (← greed) least most last :: before

/-- The closing parenthesis of the group that opened at `start`. -/
def closing (start : Nat) : Reading Unit := do
  unless ← eat ')' do refuseAt .unterminatedGroup start

/-- The name of a group, through `closer`. -/
def groupName (closer : Char) : Reading (List Char) := do
  let n ← name closer "group name"
  unless Text.isIdentifier n do refuse (.badNameCharacter n) (n.length + 1)
  return n

def namedGroup (n : List Char) : Reading Nat := do
  match (← get).names.lookup n with
  | some g => return g
  | none => refuse (.unknownGroup n) (n.length + 1)

/-- A reference to a group by its name. -/
def namedReference : Reading Node := do
  let n ← groupName ')'
  let g ← namedGroup n
  unless ← isClosed g do refuse .openGroup (n.length + 1)
  checkLookbehind g
  return .reference g

/-- The decimal value of digits of any script, with single underscores between them. -/
def anyDigits? : List Char → Nat → Option Nat
  | [], n => some n
  | c :: cs, n =>
    if Text.isDecimal c.toNat then anyDigits? cs (n * 10 + Text.decimalValue c.toNat)
    else match c, cs with
      | '_', d :: ds =>
        if Text.isDecimal d.toNat then anyDigits? ds (n * 10 + Text.decimalValue d.toNat) else none
      | _, _ => none

/-- The number that a text spells, with blanks around it and an optional sign. A negative number is
none, but a negative zero is zero. -/
def groupNumber? (cs : List Char) : Option Nat :=
  let unsigned? (ds : List Char) := match ds with
    | [] => none
    | d :: _ =>
      if d = '_' || 4300 < (ds.filter (· != '_')).length then none else anyDigits? ds 0
  match Text.trim cs with
  | '+' :: ds => unsigned? ds
  | '-' :: ds => (unsigned? ds).filter (· == 0)
  | ds => unsigned? ds

/-- The bound of group numbers. -/
def groupLimit : Nat := 0x7FFFFFFF

/-- The group that a condition asks about. A group given by its number may come later, so the first
place of each number is kept. -/
def conditionGroup : Reading Nat := do
  let n ← name ')' "group name"
  if Text.isIdentifier n then namedGroup n
  else
    let back := n.length + 1
    match groupNumber? n with
    | none => refuse (.badNameCharacter n) back
    | some 0 => refuse .badGroupNumber back
    | some g =>
      if groupLimit ≤ g then refuse (.invalidReference g) back
      let place := (← position) - back
      modify fun p =>
        if (p.conditions.lookup g).isSome then p
        else { p with conditions := p.conditions ++ [(g, place)] }
      return g

/-- A condition, after its opening parenthesis; the group opened at `start`. -/
def conditional (sequence : Reading Node) (start : Nat) : Reading Node := do
  let g ← conditionGroup
  checkLookbehind g
  let yes ← sequence
  let no ← if ← eat '|' then
      let no ← sequence
      if (← peek) = some (.plain '|') then refuse .tooManyBranches 0
      pure no
    else pure .empty
  closing start
  return .conditional g yes no

/-- Look-around, after its sign. -/
def lookaround (alternatives : Reading Node) (start : Nat) (behind negated : Bool) :
    Reading Node := do
  let outer := (← get).lookbehind
  if behind then
    modify fun p => { p with lookbehind := p.lookbehind <|> some p.widths.size }
  let body ← alternatives
  modify fun p => { p with lookbehind := outer }
  closing start
  if behind then return .lookbehind negated (body.width (← groupWidth)).1 body
  else return .lookahead negated body

/-- The rest of the group that opened at `start`, captured under a number. -/
def captured (alternatives : Reading Node) (start : Nat) (n : Option (List Char)) :
    Reading Node := do
  let g ← openGroup n
  let body ← alternatives
  closing start
  closeGroup g body
  return .capture g body

/-- What a parenthesis at some place opened: a node, nothing, or a change of the verbose switch for
the rest of the sequence. -/
inductive Opened where
  | node (node : Node)
  | nothing
  | switched

/-- A group, after its parenthesis at `start`. Switches for the whole pattern must come first:
`atStart` says that nothing has been read. The two arguments read what is inside, given whether
the verbose switch is on. -/
def group (alternatives sequence : Bool → Reading Node) (start : Nat) (verbose atStart : Bool) :
    Reading Opened := do
  unless ← eat '?' do return .node (← captured (alternatives verbose) start none)
  match ← take with
  | none => refuse .unexpectedEnd 0
  | some (.plain c) =>
    match c with
    | 'P' =>
      if ← eat '<' then
        let n ← groupName '>'
        return .node (← captured (alternatives verbose) start (some n))
      if ← eat '=' then return .node (← namedReference)
      match ← take with
      | none => refuse .unexpectedEnd 0
      | some t => refuse (.unknownExtension ('?' :: 'P' :: t.chars)) (t.chars.length + 2)
    | ':' =>
      let body ← alternatives verbose
      closing start
      return .node (.scoped [] [] body)
    | '#' =>
      unless ← skipThrough ')' ((← get).rest.length + 1) do refuseAt .unterminatedComment start
      return .nothing
    | '=' => return .node (← lookaround (alternatives verbose) start false false)
    | '!' => return .node (← lookaround (alternatives verbose) start false true)
    | '<' =>
      match ← take with
      | none => refuse .unexpectedEnd 0
      | some (.plain '=') => return .node (← lookaround (alternatives verbose) start true false)
      | some (.plain '!') => return .node (← lookaround (alternatives verbose) start true true)
      | some t => refuse (.unknownExtension ('?' :: '<' :: t.chars)) (t.chars.length + 2)
    | '(' => return .node (← conditional (sequence verbose) start)
    | '>' =>
      let body ← alternatives verbose
      closing start
      return .node (.atomic body)
    | _ =>
      if (Flag.ofChar? c).isNone && c != '-' then refuse (.unknownExtension ['?', c]) 2
      match ← switches c with
      | none =>
        unless atStart do refuseAt .globalFlagsNotFirst start
        return .switched
      | some (on, off) =>
        let inner := (verbose || on.contains .verbose) && !off.contains .verbose
        let body ← alternatives inner
        closing start
        return .node (.scoped on off body)
  | some t => refuse (.unknownExtension ('?' :: t.chars)) (t.chars.length + 1)

def verboseNow : Reading Bool := do
  return (← get).flags.contains .verbose

/-- Sequences between bars. At the top, a switch inside one of them counts for the next ones. -/
def branches (sequence : Bool → Bool → Reading Node) (top : Bool) :
    Nat → Bool → Bool → Reading (List Node)
  | 0, _, _ => return []
  | n + 1, verbose, first => do
    let head ← sequence verbose (top && first)
    if ← eat '|' then
      let verbose ← if top then verboseNow else pure verbose
      return head :: (← branches sequence top n verbose false)
    else return [head]

def alternatives (sequence : Bool → Bool → Reading Node) (top verbose : Bool) : Reading Node := do
  return Node.ofBranches (← branches sequence top ((← get).rest.length + 1) verbose true)

/-- Whether white space `c` is skipped where the verbose switch is on. -/
def isLayout (c : Char) : Bool := c = ' ' || ('\t' ≤ c && c ≤ '\r')

/-- A sequence of items, after those in the reversed list `acc`, up to a bar, a closing parenthesis
or the end. `first` says that the sequence is the first of the whole pattern. -/
def sequence : Nat → (verbose first : Bool) → List Node → Reading Node
  | 0, _, _, acc => return Node.ofList acc.reverse
  | n + 1, verbose, first, acc => do
    let start ← position
    match ← peek with
    | none | some (.plain '|') | some (.plain ')') => return Node.ofList acc.reverse
    | some t =>
      discard take
      match t with
      | .dangling => refuseAt .danglingEscape start
      | .escape c => sequence n verbose first ((← escape c) :: acc)
      | .plain c =>
        if verbose && isLayout c then sequence n verbose first acc
        else if verbose && c = '#' then
          discard (skipThrough '\n' ((← get).rest.length + 1))
          sequence n verbose first acc
        else match c with
          | '.' => sequence n verbose first (.any :: acc)
          | '^' => sequence n verbose first (.anchor .lineStart :: acc)
          | '$' => sequence n verbose first (.anchor .lineEnd :: acc)
          | '[' => sequence n verbose first ((← set start) :: acc)
          | '(' =>
            let inner (verbose first : Bool) := sequence n verbose first []
            match ← group (alternatives inner false) (inner · false) start verbose
                (first && acc.isEmpty) with
            | .node node => sequence n verbose first (node :: acc)
            | .nothing => sequence n verbose first acc
            | .switched => sequence n (← verboseNow) first acc
          | '?' | '*' | '+' | '\x7b' =>
            match ← repeatBounds c start with
            | none => sequence n verbose first (.single c.toNat :: acc)
            | some (least, most) =>
              sequence n verbose first (← repetition start least most acc)
          | _ => sequence n verbose first (.single c.toNat :: acc)

/-- The whole pattern. -/
def whole : Reading Node := do
  checkNext
  let fuel := (← get).rest.length + 1
  let node ← alternatives (fun verbose first => sequence fuel verbose first []) true (← verboseNow)
  let p ← get
  if p.flags.contains .ascii && p.flags.contains .unicode then throw .asciiAndUnicode
  unless p.rest.isEmpty do refuse .unbalancedParenthesis 0
  match p.conditions.find? (fun c => p.widths.size ≤ c.1) with
  | some (g, place) => refuseAt (.invalidReference g) place
  | none => return node

end Reading

end BotSentry.Pattern
