import BotSentry.Policy
import BotSentry.Proofs.DatasetDocuments

/-!
# Scopes and what they decide

A pattern has four scopes, and of a property's rules only the entries among them count: it is blocked
if none of the four is allowed, and one of them is blocked or it is a trainer and those are blocked
(`BlockRules.blocksBot_iff`). A scope is the name of its kind and the names that it is about, with colons
between them. The kind can be told from it, but a name may hold colons of its own, so where several
names are joined, equal scopes have equal names only if the names before the last one have as many
colons on both sides (`BotPattern.shares_of_scope_eq`).
-/

namespace BotSentry

open Text

/-- What a scope is about: one pattern, or a group of them. -/
inductive ScopeKind where
  | pattern
  | category
  | subcategory
  | kind
  deriving DecidableEq

namespace BotPattern

def scope (p : BotPattern) : ScopeKind → Text
  | .pattern => p.patternScope
  | .category => p.categoryScope
  | .subcategory => p.subcategoryScope
  | .kind => p.kindScope

/-- Two patterns have the fields in common that scopes of a kind name. -/
def Shares (p q : BotPattern) : ScopeKind → Prop
  | .pattern => p.pattern = q.pattern
  | .category => p.category = q.category
  | .subcategory => p.category = q.category ∧ p.subcategory = q.subcategory
  | .kind => p.category = q.category ∧ p.subcategory = q.subcategory ∧ p.kind = q.kind

def colons (name : Text) : Nat := name.count (.char ':')

/-- Of the names in scopes of a kind, those before the last one have as many colons in both patterns. -/
def Aligned (p q : BotPattern) : ScopeKind → Prop
  | .pattern | .category => True
  | .subcategory => colons p.category = colons q.category
  | .kind => colons p.category = colons q.category ∧ colons p.subcategory = colons q.subcategory

instance (p q : BotPattern) : DecidablePred (p.Shares q)
  | .pattern | .category => inferInstanceAs (Decidable (_ = _))
  | .subcategory | .kind => inferInstanceAs (Decidable (_ ∧ _))

/-! ## Telling scopes apart -/

theorem append_cons_inj_of_count {α : Type} [DecidableEq α] {sep : α} {a b s t : List α}
    (h : a ++ sep :: s = b ++ sep :: t) (hcount : a.count sep = b.count sep) : a = b ∧ s = t := by
  induction a generalizing b with
  | nil =>
    cases b with
    | nil => exact ⟨rfl, (List.cons.inj h).2⟩
    | cons c b =>
      obtain ⟨rfl, -⟩ := List.cons.inj h
      simp at hcount
  | cons c a ih =>
    cases b with
    | nil =>
      obtain ⟨rfl, -⟩ := List.cons.inj h
      simp at hcount
    | cons d b =>
      obtain ⟨rfl, htail⟩ := List.cons.inj h
      have hcount' : a.count sep = b.count sep := by
        simp only [List.count_cons] at hcount
        omega
      obtain ⟨rfl, rfl⟩ := ih htail hcount'
      exact ⟨rfl, rfl⟩

variable {p q : BotPattern} {k l : ScopeKind}

theorem kind_eq_of_scope_eq (h : p.scope k = q.scope l) : k = l := by
  -- The name of the kind comes first, and each begins with a letter of its own.
  have hhead := congrArg List.head? h
  cases k <;> cases l <;> simp [scope, patternScope, categoryScope, subcategoryScope, kindScope,
    Text.ofString, Text.ofChars] at hhead ⊢

theorem shares_of_scope_eq (h : p.scope k = q.scope k) (ha : p.Aligned q k) : p.Shares q k := by
  cases k with
  | pattern => exact Text.ofString_injective (List.append_cancel_left h)
  | category => exact List.append_cancel_left h
  | subcategory =>
    simp only [scope, subcategoryScope, List.append_assoc] at h
    exact append_cons_inj_of_count (List.append_cancel_left h) ha
  | kind =>
    simp only [scope, kindScope, List.append_assoc] at h
    obtain ⟨hcategory, h⟩ := append_cons_inj_of_count (List.append_cancel_left h) ha.1
    obtain ⟨hsubcategory, hkind⟩ := append_cons_inj_of_count h ha.2
    exact ⟨hcategory, hsubcategory, hkind⟩

theorem scope_eq_of_shares (h : p.Shares q k) : p.scope k = q.scope k := by
  cases k with
  | pattern => exact congrArg (Text.ofString "pattern:" ++ Text.ofString ·) h
  | category => exact congrArg (Text.ofString "category:" ++ ·) h
  | subcategory => simp only [scope, subcategoryScope, h.1, h.2]
  | kind => simp only [scope, kindScope, h.1, h.2.1, h.2.2]

theorem aligned_of_shares (h : p.Shares q k) : p.Aligned q k := by
  cases k with
  | pattern | category => trivial
  | subcategory => exact congrArg colons h.1
  | kind => exact ⟨congrArg colons h.1, congrArg colons h.2.1⟩

end BotPattern

/-! ## Rules -/

namespace BlockRules

def block (rules : BlockRules) (s : Text) : BlockRules :=
  { rules with blocks := rules.blocks.insert s }

def allow (rules : BlockRules) (s : Text) : BlockRules :=
  { rules with allows := rules.allows.insert s }

/-- Whatever the first rules block, the others have reason to block: they allow no more, and block no
less. -/
structure Within (rules rules' : BlockRules) : Prop where
  allows : rules'.allows.toList ⊆ rules.allows.toList
  blocks : rules.blocks.toList ⊆ rules'.blocks.toList
  trainers : rules.blockModelTrainers = true → rules'.blockModelTrainers = true

/-- The rules differ only in entries that are no scopes of a pattern. -/
structure AlikeFor (p : BotPattern) (rules rules' : BlockRules) : Prop where
  allows : ∀ k, p.scope k ∈ rules.allows.toList ↔ p.scope k ∈ rules'.allows.toList
  blocks : ∀ k, p.scope k ∈ rules.blocks.toList ↔ p.scope k ∈ rules'.blocks.toList
  trainers : rules.blockModelTrainers = rules'.blockModelTrainers

variable {p q : BotPattern} {k : ScopeKind} {rules rules' : BlockRules}

theorem exists_scope_mem_iff {s : ScopeSet} : (∃ k, p.scope k ∈ s.toList)
    ↔ s.contains p.patternScope = true ∨ p.groupScopes.any s.contains = true := by
  simp only [BotPattern.groupScopes, List.any_cons, List.any_nil, Bool.or_false, Bool.or_eq_true,
    ScopeSet.contains_iff]
  constructor
  · rintro ⟨k, hk⟩
    cases k with
    | pattern => exact .inl hk
    | category => exact .inr (.inl hk)
    | subcategory => exact .inr (.inr (.inl hk))
    | kind => exact .inr (.inr (.inr hk))
  · rintro (h | h | h | h)
    · exact ⟨.pattern, h⟩
    · exact ⟨.category, h⟩
    · exact ⟨.subcategory, h⟩
    · exact ⟨.kind, h⟩

theorem blocksBot_iff : rules.blocksBot p = true ↔ (∀ k, p.scope k ∉ rules.allows.toList)
    ∧ ((∃ k, p.scope k ∈ rules.blocks.toList)
      ∨ rules.blockModelTrainers = true ∧ p.isModelTrainer = true) := by
  rw [← not_exists, exists_scope_mem_iff, exists_scope_mem_iff, not_or]
  unfold blocksBot
  split_ifs with hallow hallows hblock hblocks <;> simp [*]

theorem Within.blocksBot (h : rules.Within rules') (hb : rules.blocksBot p = true) :
    rules'.blocksBot p = true := by
  rw [blocksBot_iff] at hb ⊢
  obtain ⟨hallows, hblocks⟩ := hb
  refine ⟨fun k hk => hallows k (h.allows hk), ?_⟩
  rcases hblocks with ⟨k, hk⟩ | ⟨htrainers, hp⟩
  · exact .inl ⟨k, h.blocks hk⟩
  · exact .inr ⟨h.trainers htrainers, hp⟩

theorem AlikeFor.blocksBot_eq (h : rules.AlikeFor p rules') :
    rules.blocksBot p = rules'.blocksBot p := by
  have hallows : ∀ k, p.scope k ∉ rules.allows.toList ↔ p.scope k ∉ rules'.allows.toList :=
    fun k => not_congr (h.allows k)
  rw [Bool.eq_iff_iff, blocksBot_iff, blocksBot_iff, forall_congr' hallows, exists_congr h.blocks,
    h.trainers]

/-- The law of blocking: a pattern is blocked if and only if none of its scopes is allowed, and one of
them is blocked or it is a trainer and those are blocked. So rules that allow no more and block no less
block no less, and entries that are no scopes of the pattern make no difference. -/
theorem blocking_law (p : BotPattern) (rules rules' : BlockRules) :
    (rules.blocksBot p = true ↔ (∀ k, p.scope k ∉ rules.allows.toList)
      ∧ ((∃ k, p.scope k ∈ rules.blocks.toList)
        ∨ rules.blockModelTrainers = true ∧ p.isModelTrainer = true))
      ∧ (rules.Within rules' → rules.blocksBot p = true → rules'.blocksBot p = true)
      ∧ (rules.AlikeFor p rules' → rules.blocksBot p = rules'.blocksBot p) :=
  ⟨blocksBot_iff, Within.blocksBot, AlikeFor.blocksBot_eq⟩

/-- The crawlers of a category are blocked, one of them is not. -/
def mixedRules : BlockRules where
  blocks := .ofList [Text.ofString "category:AI Crawler", Text.ofString "category:Shop"]
  allows := .ofList [Text.ofString "type:AI Crawler:Search:bingbot"]

/-- Another crawler stays blocked if trainers are blocked as well and nothing is allowed any more, and
the entry about shops makes no difference to it. -/
theorem blocking_law_gptBot :
    let p := Dataset.trainer "GPTBot/[0-9]" "https://openai.com" "gptbot" "OpenAI"
    let rules' := { mixedRules with allows := .empty, blockModelTrainers := true }
    let rules'' := { mixedRules with blocks := .ofList [Text.ofString "category:AI Crawler"] }
    (mixedRules.Within rules' ∧ mixedRules.blocksBot p = true ∧ rules'.blocksBot p = true)
      ∧ mixedRules.AlikeFor p rules'' ∧ mixedRules.blocksBot p = rules''.blocksBot p := by
  intro p rules' rules''
  have hwithin : mixedRules.Within rules' := ⟨nofun, fun _ => id, fun _ => rfl⟩
  have hblocked : mixedRules.blocksBot p = true := by decide
  have halike : mixedRules.AlikeFor p rules'' :=
    ⟨fun _ => Iff.rfl, fun k => by cases k <;> decide, rfl⟩
  exact ⟨⟨hwithin, hblocked, (blocking_law p mixedRules rules').2.1 hwithin hblocked⟩, halike,
    (blocking_law p mixedRules rules'').2.2 halike⟩

/-! ## Entries made from another pattern -/

theorem alikeFor_block {s : Text} (h : ∀ k, s ≠ p.scope k) : (rules.block s).AlikeFor p rules where
  allows _ := Iff.rfl
  blocks k := by
    rw [block, ScopeSet.mem_insert, or_iff_right (Ne.symm (h k))]
  trainers := rfl

theorem alikeFor_allow {s : Text} (h : ∀ k, s ≠ p.scope k) : (rules.allow s).AlikeFor p rules where
  allows k := by
    rw [allow, ScopeSet.mem_insert, or_iff_right (Ne.symm (h k))]
  blocks _ := Iff.rfl
  trainers := rfl

end BlockRules

open BlockRules

namespace BotPattern

/-- A scope identifies its kind, and together with the numbers of colons also the fields that it names.
So an entry made from one pattern makes no difference to another one that does not share these fields,
as long as the names have their colons in the same places. -/
theorem scope_identifies (p q : BotPattern) (k : ScopeKind) :
    (∀ l, p.scope k = q.scope l → k = l)
      ∧ (p.scope k = q.scope k ∧ p.Aligned q k ↔ p.Shares q k)
      ∧ ∀ rules : BlockRules, p.Aligned q k → ¬ p.Shares q k →
        (rules.block (p.scope k)).blocksBot q = rules.blocksBot q
          ∧ (rules.allow (p.scope k)).blocksBot q = rules.blocksBot q := by
  refine ⟨fun l => kind_eq_of_scope_eq, ⟨fun ⟨h, ha⟩ => shares_of_scope_eq h ha,
    fun h => ⟨scope_eq_of_shares h, aligned_of_shares h⟩⟩, fun rules ha hs => ?_⟩
  have hne : ∀ l, p.scope k ≠ q.scope l := by
    intro l h
    obtain rfl := kind_eq_of_scope_eq h
    exact hs (shares_of_scope_eq h ha)
  exact ⟨(alikeFor_block hne).blocksBot_eq, (alikeFor_allow hne).blocksBot_eq⟩

def ofGroups (category subcategory kind : String) : BotPattern where
  pattern := "Bot"
  kind := Text.ofString kind
  category := Text.ofString category
  subcategory := Text.ofString subcategory
  company := none
  isCompliant := false
  isModelTrainer := false
  intent := Text.ofString "unknown"
  url := none

theorem scope_identifies_colons :
    let p := ofGroups "Web:AI" "Search" "a"
    let q := ofGroups "Web:Shop" "Search" "a"
    p.Aligned q .kind ∧ ¬ p.Shares q .kind
      ∧ (({} : BlockRules).block (p.scope .kind)).blocksBot q = ({} : BlockRules).blocksBot q := by
  intro p q
  have ha : p.Aligned q .kind := ⟨by decide, rfl⟩
  have hs : ¬ p.Shares q .kind := by decide
  exact ⟨ha, hs, ((scope_identifies p q .kind).2.2 {} ha hs).1⟩

/-- A colon may as well belong to the category as to the subcategory: the scopes are the same, and an entry
made from one of the patterns blocks the other one. -/
theorem scope_with_colon_ambiguous :
    let p := ofGroups "a:b" "c" "d"
    let q := ofGroups "a" "b:c" "d"
    (p.subcategoryScope = q.subcategoryScope ∧ ¬ p.Shares q .subcategory)
      ∧ (p.kindScope = q.kindScope ∧ ¬ p.Shares q .kind)
      ∧ ({} : BlockRules).blocksBot q = false
      ∧ (({} : BlockRules).block p.subcategoryScope).blocksBot q = true := by
  decide

end BotPattern

end BotSentry
