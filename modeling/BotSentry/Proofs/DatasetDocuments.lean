import BotSentry.Dataset.Document
import BotSentry.Dataset.Validation
import BotSentry.Proofs.DateTimes
import BotSentry.Proofs.Documents
import Mathlib.Data.List.Nodup

/-!
# Datasets are checked as they were stored

The document of a dataset without surrogates passes its own check, which gives the dataset back, field by
field (`Dataset.ofJson_toJson`): every field is found under the name it was written under, null stands for
nothing where a text is optional, and a set in order is a set (`ScopeSet.ofList_toList`). So the bytes of a
dataset are there (`Dataset.Storable.encode_eq`) and are those of that dataset
(`Dataset.Storable.ofBytes_eq`).
-/

namespace BotSentry

open Schema Text

/-! ## What can be stored -/

structure BotPattern.Storable (p : BotPattern) : Prop where
  pattern : p.pattern ≠ ""
  kind : IsUnicode p.kind
  category : IsUnicode p.category
  subcategory : IsUnicode p.subcategory
  company : ∀ t ∈ p.company, IsUnicode t
  intent : IsUnicode p.intent
  url : ∀ t ∈ p.url, IsUnicode t

structure AiReferrer.Storable (r : AiReferrer) : Prop where
  id : IsUnicode r.id
  name : IsUnicode r.name
  company : ∀ t ∈ r.company, IsUnicode t
  url : ∀ t ∈ r.url, IsUnicode t
  patterns : ∀ t ∈ r.patterns, IsUnicode t
  description : IsUnicode r.description

structure BlockRules.Storable (r : BlockRules) : Prop where
  blocks : ∀ t ∈ r.blocks.toList, IsUnicode t
  allows : ∀ t ∈ r.allows.toList, IsUnicode t

/-- A dataset of texts without surrogates and of patterns that are not empty, which was synchronised at a
time that passes validation. -/
structure Dataset.Storable (d : Dataset) : Prop where
  patterns : ∀ p ∈ d.patterns, p.Storable
  referrers : ∀ r ∈ d.referrers, r.Storable
  rules : d.rules.Storable
  version : IsUnicode d.version
  syncedAt : ∀ t ∈ d.syncedAt, ∃ source v, dateTime source v = .ok t

/-! ## Fields -/

theorem Text.ofString_injective : Function.Injective ofString := fun s t h => by
  have hs := toString?_ofString s
  rw [h, toString?_ofString] at hs
  exact (Option.some.inj hs).symm

namespace Json

/-- The fields of an object under their names. -/
def namedFields (fields : List (String × Json)) : Fields :=
  fields.map fun (k, v) => (Text.ofString k, v)

theorem field?_namedFields (fields : List (String × Json)) (name : String) :
    field? (namedFields fields) name = fields.lookup name := by
  induction fields with
  | nil => rfl
  | cons f fields ih =>
    obtain ⟨k, v⟩ := f
    simp only [field?, namedFields, List.map_cons, List.lookup_cons] at ih ⊢
    rw [ih]
    by_cases h : name = k
    · simp [h]
    · rw [beq_eq_false_iff_ne.2 h, beq_eq_false_iff_ne.2 (Text.ofString_injective.ne h)]

theorem plain_mkObj {n : Nat} {fields : List (String × Json)}
    (hnames : (fields.map Prod.fst).Nodup) (h : ∀ f ∈ fields, Plain n f.2) :
    Plain (n + 1) (mkObj fields) := by
  have hkeys : (fields.map fun f => (Text.ofString f.1, f.2)).map Prod.fst
      = (fields.map Prod.fst).map Text.ofString := by
    rw [List.map_map, List.map_map]
    rfl
  refine .obj (hkeys ▸ hnames.map Text.ofString_injective) (fun f hf => ?_) fun f hf => ?_
  · obtain ⟨g, -, rfl⟩ := List.mem_map.1 hf
    exact isUnicode_ofChars
  · obtain ⟨g, hg, rfl⟩ := List.mem_map.1 hf
    exact h g hg

theorem plain_ofOption {n : Nat} {t : Option Text} (h : ∀ u ∈ t, IsUnicode u) :
    Plain n (ofOption t) := by
  cases t with
  | none => exact .null
  | some u => exact .str (h u rfl)

theorem plain_texts {n : Nat} {l : List Text} (h : ∀ t ∈ l, IsUnicode t) :
    Plain (n + 1) (.arr (l.map .str)) := by
  refine .arr fun v hv => ?_
  obtain ⟨t, ht, rfl⟩ := List.mem_map.1 hv
  exact .str (h t ht)

end Json

open Json

theorem optional_ofOption (t : Option Text) : optional text (.ofOption t) = .ok t := by
  cases t <;> rfl

theorem someString_ofString {s : String} (h : s ≠ "") : someString (.ofString s) = .ok s := by
  have hne : (Text.ofString s).isEmpty = false := by
    simpa [Text.ofString, Text.ofChars] using h
  simp only [someString, Json.ofString, Text.toString?_ofString, hne]
  rfl

/-- The items of an array that are checked back one by one. -/
theorem all_map {α : Type} {check : Json → Checked α} {toJson : α → Json} {l : List α}
    (h : ∀ a ∈ l, check (toJson a) = .ok a) (i : Nat) :
    Checked.all check i (l.map toJson) = .ok l := by
  induction l generalizing i with
  | nil => rfl
  | cons a l ih =>
    obtain ⟨ha, hl⟩ := List.forall_mem_cons.1 h
    rw [List.map_cons, Checked.all, ha, ih hl]
    rfl

theorem items_texts (cause : Cause) (l : List Text) :
    items cause text (.arr (l.map .str)) = .ok l :=
  @all_map Text text Json.str l (fun _ _ => rfl) 0

/-! ## Sets of scopes -/

theorem Text.before_irrefl (t : Text) : before t t = false := by
  induction t with
  | nil => rfl
  | cons c t ih => simp [before, ih]

namespace ScopeSet

theorem insertInto_eq_append {t : Text} {l : List Text} (h : ∀ u ∈ l, Text.before u t = true) :
    insertInto t l = l ++ [t] := by
  induction l with
  | nil => rfl
  | cons u l ih =>
    obtain ⟨hu, hl⟩ := List.forall_mem_cons.1 h
    have hne : t ≠ u := by
      rintro rfl
      simp [Text.before_irrefl] at hu
    have hafter : Text.before t u ≠ true := by
      intro htu
      simpa [Text.before_irrefl] using Text.before_trans hu htu
    rw [insertInto, if_neg hne, if_neg hafter, ih hl, List.cons_append]

theorem toList_foldl_insert {s : ScopeSet} {l : List Text}
    (h : (s.toList ++ l).Pairwise (fun s t => Text.before s t = true)) :
    (l.foldl insert s).toList = s.toList ++ l := by
  induction l generalizing s with
  | nil => rw [List.foldl_nil, List.append_nil]
  | cons t l ih =>
    have hlast : (s.insert t).toList = s.toList ++ [t] :=
      insertInto_eq_append fun u hu => (List.pairwise_append.1 h).2.2 u hu t (List.mem_cons_self ..)
    rw [List.append_cons, ← hlast] at h
    rw [List.foldl_cons, ih h, hlast, ← List.append_cons]

/-- A set is the set of its members. -/
theorem ofList_toList (s : ScopeSet) : ofList s.toList = s := by
  have hlist : (ofList s.toList).toList = s.toList := toList_foldl_insert (s := empty) s.sorted
  cases hs : ofList s.toList
  cases s
  simp_all

theorem ofJson_toJson (s : ScopeSet) : ofJson s.toJson = .ok s := by
  rw [ofJson, toJson, items_texts]
  exact congrArg Checked.ok (ofList_toList s)

end ScopeSet

/-! ## Records -/

theorem BotPattern.ofJson_toJson {p : BotPattern} (h : p.Storable) :
    BotPattern.ofJson p.toJson = .ok p := by
  change BotPattern.ofFields (namedFields _) = _
  simp only [BotPattern.ofFields, BotPattern.ofFields.orDefault, required, withDefault,
    field?_namedFields, List.lookup_cons, String.reduceBEq, someString_ofString h.pattern,
    optional_ofOption]
  rfl

theorem AiReferrer.ofJson_toJson (r : AiReferrer) : AiReferrer.ofJson r.toJson = .ok r := by
  change AiReferrer.ofFields (namedFields _) = _
  simp only [AiReferrer.ofFields, required, withDefault, field?_namedFields, List.lookup_cons,
    String.reduceBEq, optional_ofOption, nullIs, items_texts]
  rfl

theorem BlockRules.ofJson_toJson (r : BlockRules) : BlockRules.ofJson r.toJson = .ok r := by
  change BlockRules.ofFields (namedFields _) = _
  have hscopes : ∀ s : ScopeSet, nullIs ScopeSet.empty ScopeSet.ofJson s.toJson = .ok s :=
    ScopeSet.ofJson_toJson
  simp only [BlockRules.ofFields, withAlias, withDefault, field?_namedFields, List.lookup_cons,
    String.reduceBEq, List.lookup_nil, hscopes]
  rfl

theorem Dataset.ofJson_toJson {d : Dataset} (h : d.Storable) (source : Source) :
    Dataset.ofJson source d.toJson = .ok d := by
  change Dataset.ofFields source (namedFields _) = _
  have hpatterns : items .notTuple BotPattern.ofJson (.arr (d.patterns.map (·.toJson)))
      = .ok d.patterns := all_map (fun p hp => BotPattern.ofJson_toJson (h.patterns p hp)) 0
  have hreferrers : items .notTuple AiReferrer.ofJson (.arr (d.referrers.map (·.toJson)))
      = .ok d.referrers := all_map (fun r _ => AiReferrer.ofJson_toJson r) 0
  have hsynced : optional (dateTime source) ((d.syncedAt.map (·.toJson)).getD .null)
      = .ok d.syncedAt := by
    rcases hs : d.syncedAt with _ | t
    · rfl
    · change some <$> dateTime source (.str (ofChars t.storedChars)) = _
      rw [DateTime.dateTime_storedChars (DateTime.storable_iff.2 (h.syncedAt t hs))]
      rfl
  simp only [Dataset.ofFields, required, withDefault, field?_namedFields, List.lookup_cons,
    String.reduceBEq, hpatterns, hreferrers, hsynced, BlockRules.ofJson_toJson]
  rfl

/-! ## Bytes -/

theorem BotPattern.Storable.plain {p : BotPattern} (h : p.Storable) (n : Nat) :
    Plain (n + 1) p.toJson := by
  refine plain_mkObj (by simp) ?_
  simp only [List.forall_mem_cons, List.not_mem_nil, false_imp_iff, implies_true, and_true]
  exact ⟨.str isUnicode_ofChars, .str h.kind, .str h.category, .str h.subcategory,
    plain_ofOption h.company, .bool _, .bool _, .str h.intent, plain_ofOption h.url⟩

theorem AiReferrer.Storable.plain {r : AiReferrer} (h : r.Storable) (n : Nat) :
    Plain (n + 2) r.toJson := by
  refine plain_mkObj (by simp) ?_
  simp only [List.forall_mem_cons, List.not_mem_nil, false_imp_iff, implies_true, and_true]
  exact ⟨.str h.id, .str h.name, plain_ofOption h.company, plain_ofOption h.url,
    plain_texts h.patterns, .str h.description⟩

theorem BlockRules.Storable.plain {r : BlockRules} (h : r.Storable) (n : Nat) :
    Plain (n + 2) r.toJson := by
  refine plain_mkObj (by simp) ?_
  simp only [List.forall_mem_cons, List.not_mem_nil, false_imp_iff, implies_true, and_true]
  exact ⟨.bool _, plain_texts h.blocks, plain_texts h.allows⟩

theorem Dataset.Storable.plain {d : Dataset} (h : d.Storable) : Plain 4 d.toJson := by
  have hpatterns : Plain 3 (.arr (d.patterns.map (·.toJson))) := by
    refine .arr fun v hv => ?_
    obtain ⟨p, hp, rfl⟩ := List.mem_map.1 hv
    exact (h.patterns p hp).plain 1
  have hreferrers : Plain 3 (.arr (d.referrers.map (·.toJson))) := by
    refine .arr fun v hv => ?_
    obtain ⟨r, hr, rfl⟩ := List.mem_map.1 hv
    exact (h.referrers r hr).plain 0
  have hsynced : Plain 3 ((d.syncedAt.map (·.toJson)).getD .null) := by
    cases d.syncedAt with
    | none => exact .null
    | some t => exact .str isUnicode_ofChars
  refine plain_mkObj (by simp) ?_
  simp only [List.forall_mem_cons, List.not_mem_nil, false_imp_iff, implies_true, and_true]
  exact ⟨hpatterns, hreferrers, h.rules.plain 1, .str h.version, hsynced⟩

namespace Dataset.Storable

variable {d : Dataset}

theorem encode_eq (h : d.Storable) : d.encode = .ok (Utf8.encodeChars (written d.toJson)) :=
  h.plain.encode_eq

/-- The stored bytes are those of the dataset. -/
theorem ofBytes_eq (h : d.Storable) :
    Dataset.ofBytes (Utf8.encodeChars (written d.toJson)) = .ok d := by
  rw [Dataset.ofBytes, Utf8.decodeChars?_encodeChars]
  simp only [Schema.ofDocument, h.plain.read_written (by decide)]
  exact Dataset.ofJson_toJson h .document

end Dataset.Storable

end BotSentry
