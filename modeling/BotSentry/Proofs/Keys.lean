import BotSentry.Proofs.LetterCase
import BotSentry.Proofs.Spellings
import BotSentry.Proofs.Storage
import BotSentry.Settings.Reading

/-!
# Keys that are stored

A key is trimmed and then compared with a pattern that allows a break at its end. No break is left
there to be allowed, since a break is a blank (`Settings.key?_eq_some_iff`), so that exactly the texts of
key characters, with any blanks around them, are accepted. For the rest of the settings it does not
matter which key is given (`Settings.GivesKey.accepted?_eq`).
-/

namespace BotSentry

open Text Schema Json

/-! ## Trimming -/

/-- What a text is without the characters of some kind at its ends. -/
structure TrimsBy {α : Type} (p : α → Bool) (l key : List α) : Prop where
  ends : ∃ before after, l = before ++ key ++ after ∧ ∀ c ∈ before ++ after, p c = true
  first : ∀ c ∈ key.head?, p c = false
  last : ∀ c ∈ key.getLast?, p c = false

/-- A text without the blanks at its ends. -/
abbrev Text.Trims (t key : Text) : Prop := TrimsBy (fun c => isBlank c.value) t key

section Trims

variable {α : Type} {p : α → Bool} {l key : List α}

theorem dropWhile_eq_self (h : ∀ c ∈ l.head?, p c = false) : l.dropWhile p = l := by
  cases l with
  | nil => rfl
  | cons c l => exact List.dropWhile_cons_of_neg (by simpa using h c rfl)

theorem head?_dropWhile (c : α) (h : c ∈ (l.dropWhile p).head?) : p c = false := by
  have hnot := List.head?_dropWhile_not p l
  rw [Option.mem_def.1 h] at hnot
  exact hnot

theorem TrimsBy.eq (h : TrimsBy p l key) :
    ((l.dropWhile p).reverse.dropWhile p).reverse = key := by
  obtain ⟨⟨before, after, rfl, hends⟩, hfirst, hlast⟩ := h
  have hbefore : ∀ c ∈ before, p c = true := fun c hc => hends c (List.mem_append_left _ hc)
  have hafter : ∀ c ∈ after.reverse, p c = true := fun c hc =>
    hends c (List.mem_append_right _ (List.mem_reverse.1 hc))
  rw [List.append_assoc, List.dropWhile_append_of_pos hbefore]
  by_cases hkey : key = []
  · subst hkey
    rw [List.nil_append, List.dropWhile_eq_nil_iff.2 fun c hc => hafter c (List.mem_reverse.2 hc)]
    rfl
  · have hhead : ∀ c ∈ (key ++ after).head?, p c = false := by
      rwa [List.head?_append_of_ne_nil _ hkey]
    rw [dropWhile_eq_self hhead, List.reverse_append, List.dropWhile_append_of_pos hafter,
      dropWhile_eq_self (by rwa [List.head?_reverse]), List.reverse_reverse]

theorem trimsBy_dropWhile (p : α → Bool) (l : List α) :
    TrimsBy p l ((l.dropWhile p).reverse.dropWhile p).reverse := by
  have hback : ((l.dropWhile p).reverse.dropWhile p).reverse
      ++ ((l.dropWhile p).reverse.takeWhile p).reverse = l.dropWhile p := by
    rw [← List.reverse_append, List.takeWhile_append_dropWhile, List.reverse_reverse]
  refine ⟨⟨l.takeWhile p, ((l.dropWhile p).reverse.takeWhile p).reverse, ?_, ?_⟩, ?_, ?_⟩
  · rw [List.append_assoc, hback, List.takeWhile_append_dropWhile]
  · intro c hc
    rcases List.mem_append.1 hc with hc | hc
    · exact List.mem_takeWhile_imp hc
    · exact List.mem_takeWhile_imp (List.mem_reverse.1 hc)
  · intro c hc
    refine head?_dropWhile (l := l) c ?_
    rw [← hback]
    rw [Option.mem_def] at hc ⊢
    rw [List.head?_append, hc]
    rfl
  · intro c hc
    rw [List.getLast?_reverse] at hc
    exact head?_dropWhile c hc

/-- Nothing is left exactly if there is nothing else. -/
theorem TrimsBy.eq_nil_iff (h : TrimsBy p l key) : key = [] ↔ ∀ c ∈ l, p c = true := by
  obtain ⟨⟨before, after, rfl, hends⟩, hfirst, -⟩ := h
  constructor
  · rintro rfl
    simpa using hends
  · intro hall
    rcases key with _ | ⟨c, key⟩
    · rfl
    · have hc := hall c (by simp)
      rw [hfirst c rfl] at hc
      cases hc

end Trims

theorem Text.exists_ofChars_eq : ∀ {t : Text}, (∀ c ∈ t, c.value < 0xD800) → ∃ cs, t = ofChars cs
  | [], _ => ⟨[], rfl⟩
  | .char c :: t, h => by
    obtain ⟨cs, rfl⟩ := exists_ofChars_eq (List.forall_mem_cons.1 h).2
    exact ⟨c :: cs, rfl⟩
  | .surrogate s :: t, h => absurd (h _ List.mem_cons_self) (Nat.not_lt.2 (Nat.le_add_right _ _))

theorem Text.isBlank_lt {n : Nat} (h : isBlank n = true) : n < 0xD800 := by
  simp only [isBlank, Bool.or_eq_true, Bool.and_eq_true, decide_eq_true_eq, beq_iff_eq] at h
  omega

theorem Text.trims_ofChars (cs : List Char) : (ofChars cs).Trims (ofChars (trim cs)) := by
  have htrim : TrimsBy (isBlank ·.toNat) cs (trim cs) := trimsBy_dropWhile _ cs
  obtain ⟨⟨before, after, hcs, hends⟩, hfirst, hlast⟩ := htrim
  refine ⟨⟨ofChars before, ofChars after, ?_, ?_⟩, ?_, ?_⟩
  · simp only [ofChars, ← List.map_append, ← hcs]
  · simp only [ofChars, ← List.map_append, List.forall_mem_map]
    exact hends
  · simpa [ofChars, CodePoint.value] using hfirst
  · simpa [ofChars, CodePoint.value] using hlast

/-! ## The pattern of keys -/

/-- A letter or digit of ASCII, an underscore or a hyphen. -/
def Text.isKeyCode (n : Nat) : Bool :=
  isAsciiLetter n || isAsciiDigit n || n == 0x5F || n == 0x2D

theorem Text.isKeyCode_plain {n : Nat} (h : isKeyCode n = true) : n < 0x80 ∧ isBlank n = false := by
  have hn : n < 0x80 := by
    simp only [isKeyCode, Bool.or_eq_true, beq_iff_eq] at h
    rcases h with ((h | h) | h) | h
    · have := isAsciiLetter_bounds h
      omega
    · have := isAsciiDigit_bounds h
      omega
    · omega
    · omega
  have hall : ∀ m < 0x80, isKeyCode m = true → isBlank m = false := by decide
  exact ⟨hn, hall n hn h⟩

namespace Pattern

theorem isSome_tryDown (k : Continuation) (p : Place) (least n : Nat) :
    (tryDown k p least n).isSome = true
      ↔ ∃ m, least ≤ m ∧ m ≤ n ∧ (k { p with position := p.position + m }).isSome = true := by
  induction n with
  | zero =>
    rw [tryDown]
    split_ifs with h
    · subst h
      exact ⟨fun hk => ⟨0, Nat.le_refl 0, Nat.le_refl 0, hk⟩, fun ⟨m, _, hm, hk⟩ => by
        obtain rfl := Nat.le_zero.1 hm
        exact hk⟩
    · exact iff_of_false (by simp) fun ⟨m, hleast, hm, _⟩ => h (by omega)
  | succ n ih =>
    rw [tryDown]
    split_ifs with h
    · exact iff_of_false (by simp) fun ⟨m, hleast, hm, _⟩ => by omega
    · rw [Option.orElse_eq_orElse, Option.orElse_eq_or, Option.isSome_or, Bool.or_eq_true, ih]
      constructor
      · rintro (hk | ⟨m, hleast, hm, hk⟩)
        · exact ⟨n + 1, Nat.le_of_not_lt h, Nat.le_refl _, hk⟩
        · exact ⟨m, hleast, Nat.le_succ_of_le hm, hk⟩
      · rintro ⟨m, hleast, hm, hk⟩
        rcases Nat.le_succ_iff.1 hm with hm | rfl
        · exact .inr ⟨m, hleast, hm, hk⟩
        · exact .inl hk

theorem runLength_eq (cs : List Char) (test : Nat → Bool) (n i : Nat) :
    runLength (cs.map Char.toNat).toArray test n i
      = min n ((cs.drop i).takeWhile (test ·.toNat)).length := by
  induction n generalizing i with
  | zero => simp [runLength]
  | succ n ih =>
    simp only [runLength, List.getElem?_toArray, List.getElem?_map]
    rcases hc : cs[i]? with _ | c
    · rw [List.drop_eq_nil_of_le (List.getElem?_eq_none_iff.1 hc)]
      simp
    · obtain ⟨hlt, rfl⟩ := List.getElem?_eq_some_iff.1 hc
      rw [Option.map_some, List.drop_eq_getElem_cons hlt, List.takeWhile_cons]
      dsimp only
      split_ifs with htest
      · rw [ih, List.length_cons, Nat.add_min_add_right]
      · simp

end Pattern

namespace Settings

open Pattern

/-- The tree of the pattern is the one that its text spells. -/
theorem read_keyPattern : Reading.whole.run
    { rest := Token.ofChars keyPattern.text.toList, flags := keyPattern.flags }
      = .ok (keyPattern.node, { rest := [], position := 16, flags := keyPattern.flags }) := by
  cbv

/-- The class of characters in the pattern. -/
theorem any_admits_key (c : Nat) : ([.range 0x61 0x7A, .range 0x41 0x5A, .range 0x30 0x39,
    .single 0x5F, .single 0x2D] : List SetItem).any (·.admits (Mode.ofFlags []) c) = isKeyCode c := by
  rw [Bool.eq_iff_iff]
  simp [SetItem.admits, Mode.ofFlags, singleMatches, isKeyCode, Text.isAsciiLetter, isAsciiUpper,
    isAsciiLower, isAsciiDigit]
  omega

/-- The pattern takes some of the key characters that come first, and the line ends there. -/
theorem begins_keyPattern_iff_lineEnd (cs : List Char) : keyPattern.begins cs = true
    ↔ ∃ m ≤ (cs.takeWhile (isKeyCode ·.toNat)).length,
      Anchor.lineEnd.holds (cs.map Char.toNat).toArray (Mode.ofFlags []) m = true := by
  have hrun : runLength (cs.map Char.toNat).toArray isKeyCode (cs.map Char.toNat).toArray.size 0
      = (cs.takeWhile (isKeyCode ·.toNat)).length := by
    rw [runLength_eq, List.drop_zero, List.size_toArray, List.length_map]
    exact Nat.min_eq_right ((List.takeWhile_prefix _).length_le)
  have htest : (fun c => ([.range 0x61 0x7A, .range 0x41 0x5A, .range 0x30 0x39, .single 0x5F,
      .single 0x2D] : List SetItem).any (·.admits (Mode.ofFlags []) c) != false) = isKeyCode := by
    funext c
    rw [any_admits_key, Bool.bne_false]
  simp only [begins, keyPattern, Node.run, Anchor.holds, Node.charTest?, repeatChar, htest,
    Option.map_none, Option.getD_none, Nat.sub_zero, hrun, Nat.not_lt_zero, beq_self_eq_true,
    Bool.true_or, ↓reduceIte, isSome_tryDown, Nat.zero_le, true_and, Nat.zero_add]
  refine exists_congr fun m => and_congr_right fun _ => ?_
  split_ifs with h
  · exact iff_of_true rfl h
  · exact iff_of_false (by simp) h

/-- A text of key characters matches, also with a break behind it. -/
theorem begins_keyPattern_iff (cs : List Char) : keyPattern.begins cs = true
    ↔ (∀ c ∈ cs, isKeyCode c.toNat = true)
      ∨ ∃ ds, cs = ds ++ ['\n'] ∧ ∀ c ∈ ds, isKeyCode c.toNat = true := by
  rw [begins_keyPattern_iff_lineEnd]
  have hend (m : Nat) : Anchor.lineEnd.holds (cs.map Char.toNat).toArray (Mode.ofFlags []) m = true
      ↔ m = cs.length ∨ cs[m]? = some '\n' ∧ m + 1 = cs.length := by
    have hbreak (c : Char) : c.toNat = 0x0A ↔ c = '\n' :=
      ⟨fun h => Char.ext (UInt32.toNat_inj.1 h), fun h => h ▸ rfl⟩
    simp [Anchor.holds, Mode.ofFlags, hbreak]
  simp only [hend]
  constructor
  · rintro ⟨m, hm, rfl | ⟨hbreak, hlast⟩⟩
    · left
      have hall := (List.takeWhile_prefix fun c : Char => isKeyCode c.toNat).eq_of_length_le hm
      exact List.takeWhile_eq_self_iff.1 hall
    · have hcs : cs = cs.take m ++ ['\n'] := by
        obtain ⟨hlt, hc⟩ := List.getElem?_eq_some_iff.1 hbreak
        rw [← hc, ← List.take_succ_eq_append_getElem hlt, List.take_of_length_le (by omega)]
      have htaken : cs.take m <+: cs.takeWhile (isKeyCode ·.toNat) :=
        List.prefix_of_prefix_length_le (List.take_prefix m cs) (List.takeWhile_prefix _)
          (Nat.le_trans (List.length_take_le m cs) hm)
      exact .inr ⟨_, hcs, fun c hc => List.all_eq_true.1 List.all_takeWhile c (htaken.mem hc)⟩
  · rintro (hall | ⟨ds, rfl, hall⟩)
    · exact ⟨cs.length, by rw [List.takeWhile_eq_self_iff.2 hall], .inl rfl⟩
    · refine ⟨ds.length, ?_, .inr ⟨by simp, by simp⟩⟩
      rw [List.takeWhile_append_of_pos hall, List.length_append]
      exact Nat.le_add_right _ _

/-- No break is left at the end of what is trimmed. -/
theorem key?_eq_some_iff {cs : List Char} {key : String} : key? cs = some key
    ↔ key.toList = trim cs ∧ ∀ c ∈ trim cs, isKeyCode c.toNat = true := by
  have hbreak : ¬ ∃ ds, trim cs = ds ++ ['\n'] ∧ ∀ c ∈ ds, isKeyCode c.toNat = true := by
    rintro ⟨ds, htrim, -⟩
    have hlast := (trimsBy_dropWhile (isBlank ·.toNat) cs).last '\n'
    rw [show ((cs.dropWhile (isBlank ·.toNat)).reverse.dropWhile (isBlank ·.toNat)).reverse
      = ds ++ ['\n'] from htrim, List.getLast?_concat] at hlast
    exact absurd (hlast rfl) (by decide)
  have hbegins := begins_keyPattern_iff (trim cs)
  rw [or_iff_left hbreak] at hbegins
  rw [key?, ← hbegins]
  split_ifs with h
  · rw [Option.some.injEq]
    constructor
    · rintro rfl
      exact ⟨String.toList_ofList, h⟩
    · rintro ⟨hkey, -⟩
      rw [← hkey, String.ofList_toList]
  · exact iff_of_false (by simp) fun hkey => h hkey.2

/-- Key characters are not blank, so a key is trimmed already. -/
theorem key?_toList {key : String} (h : ∀ c ∈ key.toList, isKeyCode c.toNat = true) :
    key? key.toList = some key := by
  have hblank : ∀ c ∈ key.toList, isBlank c.toNat = false := fun c hc =>
    (isKeyCode_plain (h c hc)).2
  have htrims : TrimsBy (isBlank ·.toNat) key.toList key.toList :=
    ⟨⟨[], [], by simp, by simp⟩, fun c hc => hblank c (List.mem_of_mem_head? hc),
      fun c hc => hblank c (List.mem_of_getLast? hc)⟩
  have htrim : trim key.toList = key.toList := htrims.eq
  rw [key?_eq_some_iff, htrim]
  exact ⟨rfl, h⟩

theorem keyOf_str_of_not {t key : Text} (htrims : t.Trims key)
    (h : ¬ ∀ c ∈ key, isKeyCode c.value = true) : keyOf (.str t) = .issue .badKey := by
  have hnone : t.toChars?.bind key? = none := by
    rcases hcs : t.toChars? with _ | cs
    · rfl
    · obtain rfl := eq_ofChars_of_toChars? hcs
      obtain rfl := htrims.eq.symm.trans (trims_ofChars cs).eq
      refine Option.eq_none_iff_forall_ne_some.2 fun stored hstored => h ?_
      simpa [ofChars, CodePoint.value] using (key?_eq_some_iff.1 hstored).2
  rw [keyOf, hnone]

theorem keyOf_str {t key : Text} (htrims : t.Trims key)
    (h : ∀ c ∈ key, isKeyCode c.value = true) :
    ∃ stored, Text.ofString stored = key ∧ keyOf (.str t) = .ok stored := by
  obtain ⟨before, after, hends, hblank⟩ := htrims.ends
  obtain ⟨cs, rfl⟩ : ∃ cs, t = ofChars cs := by
    refine exists_ofChars_eq fun c hc => ?_
    rw [hends, List.append_assoc, List.mem_append, List.mem_append] at hc
    rcases hc with hc | hc | hc
    · exact isBlank_lt (hblank c (List.mem_append_left _ hc))
    · exact Nat.lt_trans (isKeyCode_plain (h c hc)).1 (by decide)
    · exact isBlank_lt (hblank c (List.mem_append_right _ hc))
  obtain rfl := htrims.eq.symm.trans (trims_ofChars cs).eq
  have hkey : ∀ c ∈ trim cs, isKeyCode c.toNat = true := by
    simpa [ofChars, CodePoint.value] using h
  refine ⟨String.ofList (trim cs), by rw [Text.ofString, String.toList_ofList], ?_⟩
  rw [keyOf, toChars?_ofChars, Option.bind_some,
    key?_eq_some_iff.2 ⟨String.toList_ofList, hkey⟩]

/-! ## The settings around a key -/

/-- The settings that are read, if they are accepted. -/
def accepted? (given : Fields) (vars : List (String × String)) : Option Settings :=
  (read given vars).toOption.bind Checked.value?

/-- The given fields but for the key. -/
def withoutKey (given : Fields) : Fields := given.filter (·.1 != Text.ofString "api_key")

/-- The variables but for the key, however its name is spelt. -/
def withoutKeyVariable (vars : List (String × String)) : List (String × String) :=
  vars.filter fun (name, _) => Text.lower name != variableStart ++ "api_key"

/-- A text is given as the key: as a field, or in a variable where there is no field. -/
inductive GivesKey (given : Fields) (vars : List (String × String)) : Text → Prop
  | field {t : Text} : field? given "api_key" = some (.str t) → GivesKey given vars t
  | variable {s : String} : field? given "api_key" = none →
      variableValue vars "api_key" = some s → GivesKey given vars (Text.ofString s)

/-- The names of the other fields. -/
def otherNames : List (String × Bool) := fieldNames.tail

/-- To check one more field leaves the place of an earlier one as it is. -/
theorem value?_seq_place {κ α β : Type} {key : Option κ} {f g : Checked (α → β)}
    {place : κ → β → β}
    (h : f.value? = key.bind fun k => g.value?.map fun make a => place k (make a)) (c : Checked α) :
    (f <*> c).value? = key.bind fun k => (g <*> c).value?.map (place k) := by
  rw [Checked.value?_seq, Checked.value?_seq, h]
  rcases key with _ | k
  · rfl
  · cases g.value? <;> cases c.value? <;> rfl

section Fields

variable {given env : Fields} {vars vars' : List (String × String)}

theorem variableValue_withoutKeyVariable (vars : List (String × String)) (field : String) :
    variableValue (withoutKeyVariable vars) field
      = if field = "api_key" then none else variableValue vars field := by
  unfold variableValue withoutKeyVariable
  rw [← List.filter_reverse, List.find?_filter]
  split_ifs with h
  · subst h
    rw [List.find?_eq_none.2 (by simp), Option.map_none]
  · refine congrArg _ (List.find?_congr fun v _ => ?_)
    by_cases hname : Text.lower v.1 = variableStart ++ field <;>
      simp [hname, String.append_right_inj, h]

theorem fieldsOf_congr : ∀ {names : List (String × Bool)},
    (∀ n ∈ names, variableValue vars' n.1 = variableValue vars n.1) →
      fieldsOf vars' names = fieldsOf vars names
  | [], _ => rfl
  | (field, isDocument) :: names, h => by
    obtain ⟨hfirst, hrest⟩ := List.forall_mem_cons.1 h
    rw [fieldsOf, fieldsOf, hfirst, fieldsOf_congr hrest]

/-- Variables give no other fields than those of some names. -/
theorem field?_fieldsOf {name : String} : ∀ {names : List (String × Bool)} {env : Fields},
    fieldsOf vars names = .ok env → (∀ n ∈ names, n.1 ≠ name) → field? env name = none
  | [], _, h, _ => by
    obtain rfl := Except.ok.inj h
    rfl
  | (field, isDocument) :: names, env, h, hne => by
    obtain ⟨hfield, hnames⟩ := List.forall_mem_cons.1 hne
    have hcons : ∀ v, (fieldsOf vars names).map ((Text.ofString field, v) :: ·) = .ok env →
        field? env name = none := by
      intro v hmap
      rcases hrest : fieldsOf vars names with fault | rest
      · rw [hrest] at hmap
        cases hmap
      · rw [hrest] at hmap
        obtain rfl := Except.ok.inj hmap
        have hname := (Text.ofString_injective.ne hfield).symm
        rw [field?, List.lookup_cons, beq_eq_false_iff_ne.2 hname]
        exact field?_fieldsOf hrest hnames
    rw [fieldsOf] at h
    split at h
    · exact field?_fieldsOf h hnames
    · split_ifs at h
      · dsimp only at h
        split at h
        · exact field?_fieldsOf h hnames
        · exact hcons _ h
        · cases h
        · cases h
      · exact hcons _ h

/-- The variables of the other fields are read on their own. -/
theorem fieldsOf_fieldNames (vars : List (String × String)) : fieldsOf vars fieldNames
    = match variableValue vars "api_key" with
      | none => fieldsOf vars otherNames
      | some value => (fieldsOf vars otherNames).map
          ((Text.ofString "api_key", .ofString value) :: ·) := rfl

theorem otherNames_ne : ∀ n ∈ otherNames, n.1 ≠ "api_key" := by
  decide

theorem fieldsOf_withoutKeyVariable (vars : List (String × String)) :
    fieldsOf (withoutKeyVariable vars) fieldNames = fieldsOf vars otherNames := by
  rw [fieldsOf_fieldNames, variableValue_withoutKeyVariable, if_pos rfl]
  refine fieldsOf_congr fun n hn => ?_
  rw [variableValue_withoutKeyVariable, if_neg (otherNames_ne n hn)]

/-- One field is checked as a key, the others are not affected by it. -/
theorem value?_ofKnown {fields fields' : Fields} (hkey : field? fields' "api_key" = none)
    (hother : ∀ n ∈ otherNames, field? fields' n.1 = field? fields n.1) :
    (ofKnown fields).value? = (withDefault "" keyOf fields "api_key").value?.bind fun key =>
      (ofKnown fields').value?.map fun s => { s with apiKey := key } := by
  have hdefault : (withDefault "" keyOf fields' "api_key").value? = some "" := by
    rw [value?_withDefault, hkey]
    rfl
  simp only [otherNames, fieldNames, List.tail_cons, List.forall_mem_cons] at hother
  obtain ⟨h₁, h₂, h₃, h₄, h₅, h₆, h₇, h₈, h₉, h₁₀, h₁₁, h₁₂, h₁₃, -⟩ := hother
  simp only [ofKnown, withDefault_congr h₁, withDefault_congr h₂, withDefault_congr h₃,
    withDefault_congr h₄, withDefault_congr h₅, withDefault_congr h₆, withDefault_congr h₇,
    withDefault_congr h₈, withDefault_congr h₉, withDefault_congr h₁₀, withDefault_congr h₁₁,
    withDefault_congr h₁₂, withDefault_congr h₁₃]
  iterate 13 refine value?_seq_place ?_ _
  rw [Checked.value?_map, Checked.value?_map, hdefault]
  rcases (withDefault "" keyOf fields "api_key").value? with _ | key <;> rfl

/-- A key among the fields that are given is one that is known. -/
theorem noOthers_withoutKey : ∀ given : Fields,
    (noOthers (withoutKey given)).value? = (noOthers given).value?
  | [] => rfl
  | (name, v) :: given => by
    by_cases hname : name = Text.ofString "api_key"
    · subst hname
      rw [withoutKey, List.filter_cons_of_neg (by simp), noOthers, if_pos (by decide)]
      exact noOthers_withoutKey given
    · rw [withoutKey, List.filter_cons_of_pos (by simpa using hname), noOthers, noOthers]
      split_ifs
      · exact noOthers_withoutKey given
      · rw [Checked.value?_seq, Checked.value?_seq]
        exact congrArg _ (funext fun f => congrArg _ (noOthers_withoutKey given))

/-- A given field stands before a variable. -/
theorem GivesKey.value?_key {t : Text} (h : GivesKey given vars t)
    (henv : fieldsOf vars fieldNames = .ok env) :
    (withDefault "" keyOf (given ++ env) "api_key").value? = (keyOf (.str t)).value? := by
  have hfield : field? (given ++ env) "api_key" = some (.str t) := by
    rw [field?, List.lookup_append]
    rcases h with h | ⟨habsent, h⟩
    · rw [show given.lookup _ = _ from h]
      rfl
    · rw [fieldsOf_fieldNames, h] at henv
      rw [show given.lookup _ = _ from habsent]
      rcases hother : fieldsOf vars otherNames with fault | other
      · rw [hother] at henv
        cases henv
      · rw [hother] at henv
        obtain rfl := Except.ok.inj henv
        rw [List.lookup_cons, beq_self_eq_true]
        rfl
  rw [value?_withDefault, hfield]
  rfl

/-- The other fields are the same with a variable for the key as without it. -/
theorem exists_fieldsOf_fieldNames {other : Fields} (h : fieldsOf vars otherNames = .ok other) :
    ∃ env, fieldsOf vars fieldNames = .ok env
      ∧ ∀ name, name ≠ "api_key" → field? env name = field? other name := by
  rw [fieldsOf_fieldNames, h]
  rcases variableValue vars "api_key" with _ | value
  · exact ⟨other, rfl, fun _ _ => rfl⟩
  · refine ⟨_, rfl, fun name hname => ?_⟩
    rw [field?, List.lookup_cons, beq_eq_false_iff_ne.2 (Text.ofString_injective.ne hname)]
    rfl

theorem field?_withoutKey_append {other : Fields} (given : Fields) (name : String) :
    field? (withoutKey given ++ other) name
      = if name = "api_key" then field? other name else field? (given ++ other) name := by
  rw [field?, List.lookup_append, withoutKey, lookup_filter_ne]
  split_ifs with htext hname hname
  · rfl
  · exact absurd (Text.ofString_injective htext) hname
  · exact absurd (congrArg _ hname) htext
  · rw [field?, List.lookup_append]

/-- The settings are accepted if the key is, and if they would be without it. -/
theorem GivesKey.accepted?_eq {t : Text} (h : GivesKey given vars t) :
    accepted? given vars = (keyOf (.str t)).value?.bind fun key =>
      (accepted? (withoutKey given) (withoutKeyVariable vars)).map fun s =>
        { s with apiKey := key } := by
  unfold accepted? read
  rw [fieldsOf_withoutKeyVariable]
  rcases hother : fieldsOf vars otherNames with fault | other
  · have henv : fieldsOf vars fieldNames = .error fault := by
      rw [fieldsOf_fieldNames, hother]
      split <;> rfl
    rw [henv]
    cases (keyOf (.str t)).value? <;> rfl
  · obtain ⟨env, henv, hsame⟩ := exists_fieldsOf_fieldNames hother
    have hkey : field? (withoutKey given ++ other) "api_key" = none := by
      rw [field?_withoutKey_append, if_pos rfl]
      exact field?_fieldsOf hother otherNames_ne
    have hrest : ∀ n ∈ otherNames,
        field? (withoutKey given ++ other) n.1 = field? (given ++ env) n.1 := by
      intro n hn
      rw [field?_withoutKey_append, if_neg (otherNames_ne n hn), field?, field?,
        List.lookup_append, List.lookup_append,
        show other.lookup _ = env.lookup _ from (hsame n.1 (otherNames_ne n hn)).symm]
    rw [henv]
    change (ofFields given env).value? = Option.bind _ fun key =>
      (ofFields (withoutKey given) other).value?.map _
    rw [ofFields, ofFields, Checked.value?_seq, Checked.value?_map, Checked.value?_seq,
      Checked.value?_map, value?_ofKnown hkey hrest, h.value?_key henv, noOthers_withoutKey]
    rcases (keyOf (.str t)).value? with _ | key
    · rfl
    · cases (ofKnown (withoutKey given ++ other)).value? <;> cases (noOthers given).value? <;> rfl

end Fields

/-- Exactly the texts of key characters with any blanks around them are accepted as a key, and what
is stored is the text without the blanks, which is fit for a header, is accepted as it is, and is
empty only if there was nothing but blanks. -/
theorem key_stored_trimmed {given : Fields} {vars : List (String × String)} {t : Text}
    (h : GivesKey given vars t) :
    ∃ key, (∀ k, t.Trims k ↔ k = key)
      ∧ ((∀ c ∈ key, isKeyCode c.value = true) → ∃ stored, Text.ofString stored = key
        ∧ accepted? given vars = (accepted? (withoutKey given) (withoutKeyVariable vars)).map
          fun s => { s with apiKey := stored })
      ∧ ((¬ ∀ c ∈ key, isKeyCode c.value = true) → accepted? given vars = none)
      ∧ ∀ s ∈ accepted? given vars, Text.ofString s.apiKey = key
        ∧ (∀ c ∈ s.apiKey.toList, c.toNat < 0x80 ∧ c ∉ ['\r', '\n', ' '])
        ∧ keyOf (.ofString s.apiKey) = .ok s.apiKey
        ∧ (s.isConfigured = false ↔ ∀ c ∈ t, isBlank c.value = true) := by
  obtain ⟨key, htrims⟩ : ∃ key, t.Trims key := ⟨_, trimsBy_dropWhile _ t⟩
  have haccepted : (∀ c ∈ key, isKeyCode c.value = true) → ∃ stored, Text.ofString stored = key
      ∧ accepted? given vars = (accepted? (withoutKey given) (withoutKeyVariable vars)).map
        fun s => { s with apiKey := stored } := by
    intro hkey
    obtain ⟨stored, hstored, hok⟩ := keyOf_str htrims hkey
    exact ⟨stored, hstored, by rw [h.accepted?_eq, hok]; rfl⟩
  have hrefused : (¬ ∀ c ∈ key, isKeyCode c.value = true) → accepted? given vars = none := by
    intro hkey
    rw [h.accepted?_eq, keyOf_str_of_not htrims hkey]
    rfl
  refine ⟨key, fun k => ⟨fun hk => hk.eq.symm.trans htrims.eq, fun hk => hk ▸ htrims⟩, haccepted,
    hrefused, fun s hs => ?_⟩
  have hkey : ∀ c ∈ key, isKeyCode c.value = true := by
    by_contra hnot
    rw [hrefused hnot] at hs
    cases hs
  obtain ⟨stored, hstored, heq⟩ := haccepted hkey
  have hname : s.apiKey = stored := by
    rw [heq, Option.mem_map] at hs
    obtain ⟨s', -, rfl⟩ := hs
    rfl
  rw [← hname] at hstored
  have hchars : ∀ c ∈ s.apiKey.toList, isKeyCode c.toNat = true := by
    rw [← hstored] at hkey
    simpa [Text.ofString, ofChars, CodePoint.value] using hkey
  refine ⟨hstored, fun c hc => ?_, ?_, ?_⟩
  · have hplain := isKeyCode_plain (hchars c hc)
    refine ⟨hplain.1, fun hmem => ?_⟩
    have hblank : ∀ c ∈ ['\r', '\n', ' '], isBlank c.toNat = true := by simp [isBlank]
    rw [hblank c hmem] at hplain
    cases hplain.2
  · change keyOf (.str (ofChars s.apiKey.toList)) = _
    rw [keyOf, toChars?_ofChars, Option.bind_some, key?_toList hchars]
  · rw [← htrims.eq_nil_iff, ← hstored, isConfigured, Bool.not_eq_false', String.isEmpty_iff]
    exact ⟨fun he => congrArg Text.ofString he, fun he => Text.ofString_injective he⟩

/-- A key with a break behind it is stored without the break. -/
theorem key_stored_trimmed_break :
    accepted? [] [("Spyglasses_API_key", " sg_live\n")] = some { apiKey := "sg_live" } := by
  have hgives : GivesKey [] [("Spyglasses_API_key", " sg_live\n")] (Text.ofString " sg_live\n") :=
    .variable rfl (by decide)
  have htrims : (Text.ofString " sg_live\n").Trims (Text.ofString "sg_live") :=
    ⟨⟨Text.ofString " ", Text.ofString "\n", by decide, by decide⟩, by decide, by decide⟩
  have hothers : accepted? [] [] = some {} := by
    rw [accepted?, Settings.read, show fieldsOf [] fieldNames = .ok [] from rfl]
    rfl
  have hvars : withoutKeyVariable [("Spyglasses_API_key", " sg_live\n")] = [] := by decide
  obtain ⟨key, hunique, hstored, -⟩ := key_stored_trimmed hgives
  obtain rfl := (hunique _).1 htrims
  obtain ⟨stored, hname, haccepted⟩ := hstored (by decide)
  obtain rfl := Text.ofString_injective hname
  rw [haccepted, hvars, show withoutKey [] = [] from rfl, hothers]
  rfl

end Settings

end BotSentry
