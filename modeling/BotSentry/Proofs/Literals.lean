import BotSentry.Proofs.Detections
import BotSentry.Proofs.LetterCase

/-!
# Literal patterns

A pattern of ASCII characters without marks is read as the sequence of its characters
(`Pattern.ofString_literal`): the reader takes one token after the other, none of which opens
anything, and no switch but the one for letter case is ever on. Such a sequence matches what begins
with its text, and a search tries every place, so that the pattern occurs in a user agent of Latin-1
exactly where its text does, apart from the case of ASCII letters (`Pattern.occursIn_literal`).

A dataset of such patterns can therefore be searched by hand, whatever its engine remembers
(`Host.literal_bots_found`).
-/

namespace BotSentry

namespace Pattern

/-- The characters that stand for something else than themselves. -/
def marks : List Char :=
  ['.', '^', '$', '*', '+', '?', '\x7b', '\x7d', '[', ']', '\x5c', '|', '(', ')']

/-- ASCII characters that stand for themselves. -/
def IsLiteral (cs : List Char) : Prop := Text.IsAscii cs ∧ ∀ c ∈ cs, c ∉ marks

instance (cs : List Char) : Decidable (IsLiteral cs) := inferInstanceAs (Decidable (_ ∧ _))

/-! ## Reading -/

namespace Reading

variable {p p' : Progress} {c : Char} {cs : List Char} {rest : List Token}

theorem run_bind {α β : Type} {x : Reading α} {a : α} (hx : x.run p = .ok (a, p'))
    (f : α → Reading β) : (x >>= f).run p = (f a).run p' := by
  rw [StateT.run_bind, hx]
  rfl

theorem run_get : (get : Reading Progress).run p = .ok (p, p) := rfl

theorem run_position : position.run p = .ok (p.position, p) := rfl

theorem run_peek : peek.run p = .ok (p.rest.head?, p) := rfl

theorem run_checkNext (h : p.rest.head? ≠ some .dangling) : checkNext.run p = .ok ((), p) := by
  rw [checkNext, run_bind run_peek, if_neg h]
  rfl

theorem run_discard_take (hp : p.rest = .plain c :: rest) (hrest : rest.head? ≠ some .dangling) :
    (discard take : Reading Unit).run p
      = .ok ((), { p with rest, position := p.position + 1 }) := by
  have hset : (MonadState.set { p with rest, position := p.position + 1 } : Reading Unit).run p
      = .ok ((), { p with rest, position := p.position + 1 }) := rfl
  have hcheck := run_checkNext (p := { p with rest, position := p.position + 1 }) hrest
  have htake : take.run p
      = .ok (some (.plain c), { p with rest, position := p.position + 1 }) := by
    rw [take, run_bind run_get, hp]
    exact (run_bind hset _).trans (run_bind hcheck _)
  change (Function.const _ () <$> take).run p = _
  rw [StateT.run_map, htake]
  rfl

theorem run_sequence_nil {n : Nat} {first : Bool} {acc : List Node} (hp : p.rest = []) :
    (sequence n false first acc).run p = .ok (Node.ofList acc.reverse, p) := by
  rcases n with _ | n
  · rfl
  · have hpeek : peek.run p = .ok (none, p) := by rw [run_peek, hp]; rfl
    rw [sequence, run_bind run_position, run_bind hpeek]
    rfl

/-- A character without a meaning of its own joins the sequence. -/
theorem run_sequence_cons {n : Nat} {first : Bool} {acc : List Node}
    (hp : p.rest = .plain c :: rest) (hrest : rest.head? ≠ some .dangling) (hc : c ∉ marks) :
    (sequence (n + 1) false first acc).run p
      = (sequence n false first (.single c.toNat :: acc)).run
          { p with rest, position := p.position + 1 } := by
  have hpeek : peek.run p = .ok (some (.plain c), p) := by rw [run_peek, hp]; rfl
  have hne : ∀ d ∈ marks, c ≠ d := fun d hd he => hc (he ▸ hd)
  simp only [marks, List.forall_mem_cons] at hne
  obtain ⟨hdot, hcaret, hdollar, hstar, hplus, hquestion, hbrace, -, hset, -, -, hbar, hopen,
    hclose, -⟩ := hne
  rw [sequence, run_bind run_position, run_bind hpeek]
  split
  · rename_i he
    exact absurd he (by simp)
  · rename_i he
    exact absurd he (by simpa using hbar)
  · rename_i he
    exact absurd he (by simpa using hclose)
  · rename_i he
    obtain rfl := Option.some.inj he
    rw [run_bind (run_discard_take hp hrest)]
    simp only [Bool.false_and, Bool.false_eq_true, if_false]

/-- A sequence of characters that stand for themselves. -/
theorem run_sequence (hcs : ∀ c ∈ cs, c ∉ marks) {n : Nat} (hn : cs.length ≤ n) {first : Bool}
    {acc : List Node} (hp : p.rest = cs.map .plain) :
    (sequence n false first acc).run p
      = .ok (Node.ofList (acc.reverse ++ cs.map (.single ·.toNat)),
          { p with rest := [], position := p.position + cs.length }) := by
  induction cs generalizing n acc p with
  | nil =>
    rcases p with ⟨rest, position⟩
    obtain rfl : rest = [] := hp
    rw [run_sequence_nil rfl, List.map_nil, List.append_nil]
    rfl
  | cons c cs ih =>
    obtain ⟨hc, hcs⟩ := List.forall_mem_cons.1 hcs
    obtain ⟨n, rfl⟩ := Nat.exists_eq_add_of_le' (Nat.le_trans (Nat.le_add_left 1 cs.length) hn)
    have hnext : (cs.map Token.plain).head? ≠ some .dangling := by
      rcases cs with _ | ⟨d, cs⟩ <;> simp
    rw [run_sequence_cons hp hnext hc, ih hcs (Nat.le_of_succ_le_succ hn) rfl]
    simp only [List.reverse_cons, List.append_assoc, List.singleton_append, List.map_cons,
      List.length_cons, Nat.add_assoc, Nat.add_comm 1]

/-- A sequence that goes on to the end of the pattern is its only alternative. -/
theorem run_alternatives {sequence : Bool → Bool → Reading Node} {top verbose : Bool} {node : Node}
    (hs : (sequence verbose top).run p = .ok (node, p')) (hp : p'.rest = []) :
    (alternatives sequence top verbose).run p = .ok (node, p') := by
  have hhead : (sequence verbose (top && true)).run p = .ok (node, p') := by rwa [Bool.and_true]
  have heat : (eat '|').run p' = .ok (false, p') := by
    rw [eat, run_bind run_peek, hp]
    rfl
  have hbranches : (branches sequence top (p.rest.length + 1) verbose true).run p
      = .ok ([node], p') := by
    rw [branches, run_bind hhead, run_bind heat]
    rfl
  rw [alternatives, run_bind run_get, run_bind hbranches]
  rfl

theorem run_whole (hcs : ∀ c ∈ cs, c ∉ marks) (hp : p.rest = cs.map .plain)
    (hflags : p.flags = [.ignoreCase]) (hconditions : p.conditions = []) : whole.run p
      = .ok (Node.ofList (cs.map (.single ·.toNat)),
          { p with rest := [], position := p.position + cs.length }) := by
  have hnext : p.rest.head? ≠ some .dangling := by
    rw [hp]
    rcases cs with _ | ⟨c, cs⟩ <;> simp
  have hverbose : verboseNow.run p = .ok (false, p) := by
    rw [verboseNow, run_bind run_get, hflags]
    rfl
  have hlength : cs.length ≤ p.rest.length + 1 := by
    rw [hp, List.length_map]
    exact Nat.le_succ _
  have hsequence : (sequence (p.rest.length + 1) false true []).run p
      = .ok (Node.ofList (cs.map (.single ·.toNat)),
          { p with rest := [], position := p.position + cs.length }) := run_sequence hcs hlength hp
  rw [whole, run_bind (run_checkNext hnext), run_bind run_get, run_bind hverbose,
    run_bind (run_alternatives hsequence rfl)]
  rcases p with ⟨rest, position, flags, widths, names, lookbehind, conditions⟩
  obtain rfl : flags = [.ignoreCase] := hflags
  obtain rfl : conditions = [] := hconditions
  rfl

end Reading

/-- The pattern of characters that stand for themselves. -/
def literal (s : String) : Pattern where
  text := s
  flags := [.ignoreCase]
  node := Node.ofList (s.toList.map (.single ·.toNat))
  groups := 0
  names := []

theorem ofChars_of_not_mem_marks : ∀ {cs : List Char}, (∀ c ∈ cs, c ∉ marks) →
    Token.ofChars cs = cs.map .plain
  | [], _ => rfl
  | c :: cs, hcs => by
    obtain ⟨hc, hcs⟩ := List.forall_mem_cons.1 hcs
    have hne : c ≠ '\x5c' := fun he => hc (he ▸ by decide)
    rw [Token.ofChars, ofChars_of_not_mem_marks hcs, List.map_cons]
    · rintro rfl
      exact absurd rfl hne
    · rintro d rest rfl
      exact absurd rfl hne

theorem check_singles (flags : Flags) (groups : Nat → Nat × Nat) : ∀ cs : List Char,
    (Node.ofList (cs.map (.single ·.toNat))).check flags groups = .ok ()
  | [] => rfl
  | [_] => rfl
  | _ :: d :: cs => check_singles flags groups (d :: cs)

/-- A text without marks is a pattern of its characters. -/
theorem ofString_literal {s : String} (h : ∀ c ∈ s.toList, c ∉ marks) :
    ofString s = .ok (literal s) := by
  rw [ofString, ofChars_of_not_mem_marks h, Reading.run_whole h rfl rfl rfl]
  simp only [bind, Except.bind, check_singles]
  rfl

/-! ## Matching -/

theorem singleMatches_iff {mode : Mode} (hcase : mode.ignoreCase = true)
    (hmode : mode.ascii = false) {a c : Char} (ha : a.toNat < 0x80) (hc : c.toNat < 0x100) :
    singleMatches mode a.toNat c.toNat = true ↔ a.toLower = c.toLower := by
  have hlower := Text.lowerCode_lt_of_latin1 hc
  simp only [singleMatches, hcase, Mode.lower, Mode.equals, hmode, Text.lowerCode_ascii ha, if_true,
    Bool.false_eq_true, if_false, Bool.or_eq_true, beq_iff_eq, List.contains_iff_mem,
    Text.mem_caseClass_ascii (Text.toLower_ascii ha).1 hlower, or_self]
  exact Text.lowerCode_eq_toLower_iff ha hc

theorem run_ofList_cons (subject : Subject) (flags : Flags) (n : Node) : ∀ ns : List Node,
    (Node.ofList (n :: ns)).run subject flags
      = fun k => n.run subject flags ((Node.ofList ns).run subject flags k)
  | [] => rfl
  | _ :: _ => rfl

/-- A sequence of characters matches what begins with them, apart from case. -/
theorem run_singles {flags : Flags} (hcase : (Mode.ofFlags flags).ignoreCase = true)
    (hmode : (Mode.ofFlags flags).ascii = false) {cs us : List Char} (hcs : Text.IsAscii cs)
    (hus : Text.IsLatin1 us) (k : Continuation) (p : Place) :
    (Node.ofList (cs.map (.single ·.toNat))).run (us.map Char.toNat).toArray flags k p
      = if cs.map Char.toLower <+: (us.map Char.toLower).drop p.position
        then k { p with position := p.position + cs.length } else none := by
  induction cs generalizing p with
  | nil => rfl
  | cons c cs ih =>
    obtain ⟨hc, hcs⟩ := List.forall_mem_cons.1 hcs
    rw [List.map_cons, run_ofList_cons]
    simp only [Node.run, List.getElem?_toArray, List.getElem?_map, ← List.map_drop]
    rcases hu : us[p.position]? with _ | u
    · rw [List.drop_eq_nil_of_le (List.getElem?_eq_none_iff.1 hu)]
      exact (if_neg (by simp)).symm
    · have hdrop : us.drop p.position = u :: us.drop (p.position + 1) := by
        obtain ⟨hlt, rfl⟩ := List.getElem?_eq_some_iff.1 hu
        exact List.drop_eq_getElem_cons hlt
      have hfirst := singleMatches_iff hcase hmode hc (hus u (List.mem_of_getElem? hu))
      simp only [Option.map_some, hdrop, List.map_cons, List.cons_prefix_cons, hfirst, ih hcs,
        ← ite_and, ← List.map_drop, List.length_cons, Nat.add_assoc, Nat.add_comm 1]

/-- A search tries one place after the other. -/
theorem isSome_searchFrom_iff (pattern : Pattern) (subject : Subject) (n i : Nat) :
    (searchFrom pattern subject n i).isSome = true ↔ ∃ j, i ≤ j ∧ j ≤ i + n
      ∧ (pattern.node.run subject pattern.flags some { position := j }).isSome = true := by
  induction n generalizing i with
  | zero =>
    refine ⟨fun h => ⟨i, Nat.le_refl i, Nat.le_refl i, h⟩, ?_⟩
    rintro ⟨j, hij, hji, h⟩
    obtain rfl : i = j := Nat.le_antisymm hij hji
    exact h
  | succ n ih =>
    rw [searchFrom]
    rcases hrun : pattern.node.run subject pattern.flags some { position := i } with _ | q
    · refine (ih (i + 1)).trans ⟨?_, ?_⟩
      · rintro ⟨j, hij, hji, h⟩
        exact ⟨j, by omega, by omega, h⟩
      · rintro ⟨j, hij, hji, h⟩
        have hne : i ≠ j := by
          rintro rfl
          rw [hrun] at h
          cases h
        exact ⟨j, by omega, by omega, h⟩
    · exact iff_of_true rfl ⟨i, Nat.le_refl i, Nat.le_add_right i _, by rw [hrun]; rfl⟩

/-- A literal pattern occurs where its text does, apart from the case of ASCII letters. -/
theorem occursIn_literal {s userAgent : String} (hs : Text.IsAscii s.toList)
    (hu : Text.IsLatin1 userAgent.toList) : (literal s).occursIn userAgent = true
      ↔ s.toList.map Char.toLower <:+: userAgent.toList.map Char.toLower := by
  have hrun (j : Nat) : ((literal s).node.run (userAgent.toList.map Char.toNat).toArray
      (literal s).flags some { position := j }).isSome = true
        ↔ s.toList.map Char.toLower <+: (userAgent.toList.map Char.toLower).drop j := by
    rw [literal, run_singles rfl rfl hs hu]
    split_ifs with h
    · exact iff_of_true rfl h
    · exact iff_of_false Bool.false_ne_true h
  simp only [occursIn, isSome_searchFrom_iff, hrun, List.infix_iff_prefix_suffix]
  constructor
  · rintro ⟨j, -, -, h⟩
    exact ⟨_, h, List.drop_suffix j _⟩
  · rintro ⟨t, h, ht⟩
    refine ⟨userAgent.toList.length - t.length, Nat.zero_le _, by simp, ?_⟩
    rw [List.suffix_iff_eq_drop, List.length_map] at ht
    rwa [← ht]

end Pattern

/-! ## Detection -/

namespace BotPattern

/-- The pattern of a bot stands in a user agent as it is written, apart from the case of ASCII
letters. -/
def StandsIn (bot : BotPattern) (userAgent : String) : Prop :=
  bot.pattern.toList.map Char.toLower <:+: userAgent.toList.map Char.toLower

instance (bot : BotPattern) (userAgent : String) : Decidable (bot.StandsIn userAgent) :=
  inferInstanceAs (Decidable (_ <:+: _))

variable {bot : BotPattern} {userAgent : String}

theorem isSearchable_of_literal (h : Pattern.IsLiteral bot.pattern.toList) :
    bot.isSearchable = true := by
  rw [isSearchable, Pattern.ofString_literal h.2]

theorem hits_of_literal (h : Pattern.IsLiteral bot.pattern.toList)
    (hu : Text.IsLatin1 userAgent.toList) :
    bot.hits userAgent = decide (bot.StandsIn userAgent) := by
  have hc : bot.compiled? = some (Pattern.literal bot.pattern) := by
    rw [compiled?, Pattern.ofString_literal h.2]
    rfl
  rw [hits, hc, Bool.eq_iff_iff, decide_eq_true_iff]
  exact Pattern.occursIn_literal h.1 hu

theorem not_standsIn_empty (h : bot.pattern ≠ "") : ¬ bot.StandsIn "" := by
  intro hs
  have hnil := List.map_eq_nil_iff.1 (List.infix_nil.1 hs)
  exact h (String.toList_eq_nil_iff.1 hnil)

end BotPattern

namespace Dataset

variable {d : Dataset} {userAgent : String}

/-- Of literal patterns, the first that stands in the user agent is found. -/
theorem botInfo_of_literal (hne : ∀ bot ∈ d.patterns, bot.pattern ≠ "")
    (hliteral : ∀ bot ∈ d.patterns, Pattern.IsLiteral bot.pattern.toList)
    (hu : Text.IsLatin1 userAgent.toList) : (d.agentDetection userAgent).botInfo
      = d.patterns.find? fun bot => decide (bot.StandsIn userAgent) := by
  unfold agentDetection
  split_ifs with hempty
  · subst hempty
    exact (List.find?_eq_none.2 fun bot hb => by
      simpa using BotPattern.not_standsIn_empty (hne bot hb)).symm
  · rw [List.find?_congr fun bot hb => BotPattern.hits_of_literal (hliteral bot hb) hu]
    generalize (d.patterns.find? fun bot => decide (bot.StandsIn userAgent)) = found
    cases found <;> rfl

/-- Two bots that are known by plain texts. -/
def literalBots : Dataset where
  patterns := [.ofPattern "Claude-Web", .ofPattern "gptbot/1"]
  version := defaultVersion

end Dataset

namespace Host

variable {τ : Type} [TimeScale τ]

/-- Whatever a host has been through, where the patterns of a client are literal texts, none of them
empty, as the schema demands, it finds a bot in a user agent of Latin-1 if and only if one of these
texts stands there, apart from the case of ASCII letters, and it finds the first of them. -/
theorem literal_bots_found (h : Host τ)
    (hnew : ∀ i c, h.client? i = some c → c.engine.memo = none) (actions : List (Action τ))
    {i : Nat} {c : Client τ} (hc : (h.run actions).client? i = some c)
    (hne : ∀ bot ∈ c.snapshot.dataset.patterns, bot.pattern ≠ "")
    (hliteral : ∀ bot ∈ c.snapshot.dataset.patterns, Pattern.IsLiteral bot.pattern.toList)
    {userAgent : String} (hu : Text.IsLatin1 userAgent.toList) :
    ∃ found, (c.detectBot userAgent).2.2 = .ok found
      ∧ (found.kind = .bot ↔ ∃ bot ∈ c.snapshot.dataset.patterns, bot.StandsIn userAgent)
      ∧ found.botInfo
        = c.snapshot.dataset.patterns.find? fun bot => decide (bot.StandsIn userAgent) := by
  have hsearchable : c.snapshot.dataset.Searchable := fun bot hb =>
    BotPattern.isSearchable_of_literal (hliteral bot hb)
  have hinfo := Dataset.botInfo_of_literal hne hliteral hu
  refine ⟨_, Client.detectBot_of_searchable (faithful_run hnew actions i c hc) (.inr hsearchable),
    ?_, hinfo⟩
  have hkind (found : Detection) : found.kind = .bot ↔ found.botInfo.isSome = true := by
    cases found <;> simp [Detection.kind, Detection.botInfo]
  rw [hkind, hinfo, List.find?_isSome]
  simp only [decide_eq_true_eq]

/-- The second of two texts stands behind letters of Latin-1, in another case. -/
theorem literal_bots_found_gptBot :
    (∀ i c, (ofDataset .literalBots).client? i = some c → c.engine.memo = none)
      ∧ ∃ c, ((ofDataset .literalBots).run [.detect "curl" ""]).client? 0 = some c
      ∧ (∀ bot ∈ c.snapshot.dataset.patterns, bot.pattern ≠ ""
        ∧ Pattern.IsLiteral bot.pattern.toList)
      ∧ Text.IsLatin1 "\u00DCber GPTBot/1.2".toList
      ∧ ∃ found, (c.detectBot "\u00DCber GPTBot/1.2").2.2 = .ok found ∧ found.kind = .bot
        ∧ found.botInfo = some (.ofPattern "gptbot/1") := by
  obtain ⟨c, hc, hsnap⟩ := Option.map_eq_some_iff.1
    (show (((ofDataset .literalBots).run [.detect "curl" ""]).client? 0).map (·.snapshot)
      = some { dataset := .literalBots } from rfl)
  have hdataset : c.snapshot.dataset = .literalBots := by rw [hsnap]
  have hbots : ∀ bot ∈ c.snapshot.dataset.patterns, bot.pattern ≠ ""
      ∧ Pattern.IsLiteral bot.pattern.toList := by
    rw [hdataset]
    simp only [Dataset.literalBots, List.forall_mem_cons]
    decide
  have hlatin : Text.IsLatin1 "\u00DCber GPTBot/1.2".toList := by decide
  obtain ⟨found, hfound, hkind, hinfo⟩ := literal_bots_found (ofDataset .literalBots)
    (memo_ofDataset _) _ hc (fun bot hb => (hbots bot hb).1) (fun bot hb => (hbots bot hb).2) hlatin
  rw [hdataset] at hkind hinfo
  exact ⟨memo_ofDataset _, c, hc, hbots, hlatin, found, hfound, hkind.2 (by decide),
    hinfo.trans (by decide)⟩

end Host

end BotSentry
