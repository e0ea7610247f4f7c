import BotSentry.Proofs.Startup

/-!
# Two spellings of a field

Some fields of an answer go by two names, one of the service and one of the stored form. A check of
such a field depends on the value under whichever name is there (`Schema.value?_withAlias`), and to
give chosen keys their other spelling leaves that value where it can be found, as long as it is not
there twice (`Schema.eitherField?_respell`). So an answer is the same dataset in either spelling or
malformed in both, and a stored dataset is found in either spelling or in neither
(`Dataset.either_spelling`).
-/

namespace BotSentry

open Schema Json

namespace Schema

/-! ## The value of a check -/

section Values

variable {α β : Type}

/-- The value, whatever the issues are where there is none. -/
def Checked.value? : Checked α → Option α
  | .ok a => some a
  | .issues _ => none

theorem Checked.value?_eq_some_iff {c : Checked α} {a : α} : c.value? = some a ↔ c = .ok a := by
  cases c <;> simp [value?]

@[simp] theorem Checked.value?_map (f : α → β) (c : Checked α) :
    (f <$> c).value? = c.value?.map f := by
  cases c <;> rfl

@[simp] theorem Checked.value?_seq (f : Checked (α → β)) (c : Checked α) :
    (f <*> c).value? = f.value?.bind (c.value?.map ·) := by
  cases f <;> cases c <;> rfl

@[simp] theorem Checked.value?_under (step : Step) (c : Checked α) :
    (c.under step).value? = c.value? := by
  cases c <;> rfl

theorem value?_withDefault (default : α) (check : Json → Checked α) (fields : Fields)
    (name : String) : (withDefault default check fields name).value?
      = (field? fields name).elim (some default) fun v => (check v).value? := by
  unfold withDefault
  rcases field? fields name with _ | v
  · rfl
  · exact Checked.value?_under _ _

/-- The value of a field that goes by two names. -/
def eitherField? (fields : Fields) (other name : String) : Option Json :=
  (field? fields other).or (field? fields name)

theorem mem_eitherField? {fields : Fields} {other name : String}
    (hone : field? fields other = none ∨ field? fields name = none) {key : String}
    (hkey : key ∈ [other, name]) {v : Json} (hv : v ∈ field? fields key) :
    v ∈ eitherField? fields other name := by
  have hv : field? fields key = some v := hv
  unfold eitherField?
  rcases List.mem_pair.1 hkey with rfl | rfl
  · rw [hv]
    rfl
  · rw [hone.resolve_right (by rw [hv]; exact nofun), hv]
    rfl

theorem value?_withAlias (default : α) (check : Json → Checked α) (fields : Fields)
    (other name : String) : (withAlias default check fields other name).value?
      = (eitherField? fields other name).elim (some default) fun v => (check v).value? := by
  unfold withAlias eitherField?
  rcases h : field? fields other with _ | v
  · exact value?_withDefault default check fields name
  · rw [Option.isSome_some, if_pos rfl, value?_withDefault, h]
    rfl

theorem withDefault_congr {fields fields' : Fields} {name : String}
    (h : field? fields' name = field? fields name) (default : α) (check : Json → Checked α) :
    withDefault default check fields' name = withDefault default check fields name := by
  unfold withDefault
  rw [h]

theorem required_congr {fields fields' : Fields} {name : String}
    (h : field? fields' name = field? fields name) (check : Json → Checked α) :
    required check fields' name = required check fields name := by
  unfold required
  rw [h]

end Values

/-! ## Respelling keys -/

/-- The other spelling of a key, if it is one of the names that have two. -/
def otherSpelling (names : List (String × String)) (key : Text) : Text :=
  ((table names).lookup key).getD key
where
  /-- Both ways from one spelling to the other. -/
  table (names : List (String × String)) : List (Text × Text) :=
    names.flatMap fun (other, name) =>
      [(Text.ofString other, Text.ofString name), (Text.ofString name, Text.ofString other)]

/-- The other spelling of a chosen key, and any other key as it is. -/
def chosenSpelling (names : List (String × String)) (chosen : Text → Bool) (key : Text) : Text :=
  if chosen key then otherSpelling names key else key

/-- The object with the other spelling of the chosen keys. -/
def respell (names : List (String × String)) (chosen : Text → Bool) (fields : Fields) : Fields :=
  fields.map fun field => (chosenSpelling names chosen field.1, field.2)

/-- The object with other values in some fields. -/
def revise (names : List String) (f : Json → Json) (fields : Fields) : Fields :=
  fields.map fun field =>
    (field.1, if field.1 ∈ names.map Text.ofString then f field.2 else field.2)

/-- No field is there in both of its spellings. -/
def Unambiguous (names : List (String × String)) (fields : Fields) : Prop :=
  ∀ e ∈ names, field? fields e.1 = none ∨ field? fields e.2 = none

/-- Every spelling in the table leads back to where it came from. -/
def IsTable (names : List (String × String)) : Prop :=
  ∀ e ∈ otherSpelling.table names, (otherSpelling.table names).lookup e.2 = some e.1

instance (names : List (String × String)) : Decidable (IsTable names) :=
  inferInstanceAs (Decidable (∀ e ∈ otherSpelling.table names, _))

theorem otherSpelling_involutive {names : List (String × String)} (h : IsTable names) :
    Function.Involutive (otherSpelling names) := by
  intro key
  rcases hk : (otherSpelling.table names).lookup key with _ | other
  · have hself : otherSpelling names key = key := by simp [otherSpelling, hk]
    rw [hself, hself]
  · obtain ⟨before, after, htable, -⟩ := List.lookup_eq_some_iff.1 hk
    have hback := h (key, other) (by simp [htable])
    simp [otherSpelling, hk, hback]

section Lookup

variable {fields : Fields} {key source : Text} {f : Text → Text}

/-- Of the old keys, at most one has become the new one. -/
theorem lookup_map_key {c : Bool} (h : ∀ e ∈ fields, f e.1 = key ↔ c = true ∧ e.1 = source) :
    (fields.map fun e => (f e.1, e.2)).lookup key = if c then fields.lookup source else none := by
  induction fields with
  | nil => cases c <;> rfl
  | cons e rest ih =>
    obtain ⟨he, hrest⟩ := List.forall_mem_cons.1 h
    have hbeq : (key == f e.1) = (c && source == e.1) := by
      rw [Bool.eq_iff_iff, Bool.and_eq_true, beq_iff_eq, beq_iff_eq, eq_comm, he,
        eq_comm (a := e.1)]
    rw [List.map_cons, List.lookup_cons, List.lookup_cons, ih hrest, hbeq]
    cases c <;> rfl

theorem lookup_map_value (f : Text → Json → Json) (fields : Fields) (key : Text) :
    (fields.map fun e => (e.1, f e.1 e.2)).lookup key = (fields.lookup key).map (f key) := by
  induction fields with
  | nil => rfl
  | cons e rest ih =>
    rw [List.map_cons, List.lookup_cons, List.lookup_cons, ih]
    by_cases hkey : key = e.1
    · subst hkey
      simp
    · rw [beq_eq_false_iff_ne.2 hkey]

end Lookup

theorem field?_revise (names : List String) (f : Json → Json) (fields : Fields) (name : String) :
    field? (revise names f fields) name
      = (field? fields name).map fun v => if name ∈ names then f v else v := by
  have hmem : Text.ofString name ∈ names.map Text.ofString ↔ name ∈ names :=
    List.mem_map_of_injective Text.ofString_injective
  simp only [field?, revise,
    lookup_map_value fun key v => if key ∈ names.map Text.ofString then f v else v, hmem]

theorem eitherField?_revise (names : List String) (f : Json → Json) (fields : Fields)
    (other name : String) : eitherField? (revise names f fields) other name
      = ((field? fields other).map fun v => if other ∈ names then f v else v).or
        ((field? fields name).map fun v => if name ∈ names then f v else v) := by
  rw [eitherField?, field?_revise, field?_revise]

theorem unambiguous_revise {names : List (String × String)} {revised : List String}
    {f : Json → Json} {fields : Fields} (h : Unambiguous names fields) :
    Unambiguous names (revise revised f fields) := by
  intro e he
  simpa only [field?_revise, Option.map_eq_none_iff] using h e he

section Respell

variable {names : List (String × String)} {fields : Fields} {chosen : Text → Bool}

theorem chosenSpelling_eq_iff (ht : IsTable names) {key key' : Text} :
    chosenSpelling names chosen key = key'
      ↔ key = if chosen key then otherSpelling names key' else key' := by
  unfold chosenSpelling
  split_ifs
  · exact (otherSpelling_involutive ht).eq_iff
  · rfl

theorem field?_respell_of_fixed (ht : IsTable names) {name : String}
    (hname : otherSpelling names (Text.ofString name) = Text.ofString name) :
    field? (respell names chosen fields) name = field? fields name := by
  refine lookup_map_key (c := true) fun e _ => ?_
  rw [chosenSpelling_eq_iff ht, hname, ite_self]
  simp

/-- A field that is there in one spelling only is found in the spelling that it then has. -/
theorem lookup_respell (chosen : Text → Bool) (ht : IsTable names) {key other : Text}
    (hother : otherSpelling names key = other) (habsent : fields.lookup other = none) :
    (respell names chosen fields).lookup key = (if !chosen key then fields.lookup key else none)
      ∧ (respell names chosen fields).lookup other
        = if chosen key then fields.lookup key else none := by
  have hne : ∀ e ∈ fields, e.1 ≠ other := fun e he =>
    Ne.symm (bne_iff_ne.1 (List.lookup_eq_none_iff.1 habsent e he))
  have hback : otherSpelling names other = key := by rw [← hother, otherSpelling_involutive ht]
  -- What has become one of the two spellings was the one that is there.
  constructor
  · refine lookup_map_key fun e he => ?_
    rw [chosenSpelling_eq_iff ht, hother]
    constructor
    · intro hkey
      split_ifs at hkey with hchosen
      · exact absurd hkey (hne e he)
      · exact ⟨by simpa [hkey] using hchosen, hkey⟩
    · rintro ⟨hchosen, rfl⟩
      rw [if_neg (by simpa using hchosen)]
  · refine lookup_map_key fun e he => ?_
    rw [chosenSpelling_eq_iff ht, hback]
    constructor
    · intro hkey
      split_ifs at hkey with hchosen
      · exact ⟨hkey ▸ hchosen, hkey⟩
      · exact absurd hkey (hne e he)
    · rintro ⟨hchosen, rfl⟩
      rw [if_pos hchosen]

theorem eitherField?_respell (chosen : Text → Bool) (ht : IsTable names)
    (hu : Unambiguous names fields) {other name : String} (hmem : (other, name) ∈ names)
    (hother : otherSpelling names (Text.ofString other) = Text.ofString name) :
    eitherField? (respell names chosen fields) other name = eitherField? fields other name := by
  unfold eitherField?
  rcases hu _ hmem with habsent | habsent
  · have hname : otherSpelling names (Text.ofString name) = Text.ofString other := by
      rw [← hother, otherSpelling_involutive ht]
    obtain ⟨hsame, hmoved⟩ := lookup_respell chosen ht hname habsent
    simp only [field?] at habsent ⊢
    rw [hsame, hmoved, habsent]
    cases chosen (Text.ofString name) <;> simp
  · obtain ⟨hsame, hmoved⟩ := lookup_respell chosen ht hother habsent
    simp only [field?] at habsent ⊢
    rw [hsame, hmoved, habsent]
    cases chosen (Text.ofString other) <;> simp

end Respell

end Schema

/-! ## Rules -/

namespace BlockRules

/-- The fields of rules that have two spellings. -/
def spellings : List (String × String) :=
  [("blockAiModelTrainers", "block_ai_model_trainers"), ("customBlocks", "custom_blocks"),
    ("customAllows", "custom_allows")]

/-- Rules with the other spelling of the chosen keys. -/
def respell (chosen : Text → Bool) : Json → Json
  | .obj fields => .obj (Schema.respell spellings chosen fields)
  | v => v

/-- No rule is there in both of its spellings. -/
def IsUnambiguous (v : Json) : Prop := ∀ fields, v = .obj fields → Unambiguous spellings fields

variable {chosen : Text → Bool}

theorem value?_respell {v : Json} (hu : IsUnambiguous v) :
    (ofJson (respell chosen v)).value? = (ofJson v).value? := by
  cases v with
  | obj fields =>
    have ht : IsTable spellings := by decide
    have heither : ∀ {other name : String}, (other, name) ∈ spellings →
        otherSpelling spellings (Text.ofString other) = Text.ofString name → _ :=
      fun hmem hother => eitherField?_respell chosen ht (hu fields rfl) hmem hother
    change (ofFields (Schema.respell spellings chosen fields)).value? = (ofFields fields).value?
    simp only [ofFields, Checked.value?_map, Checked.value?_seq, value?_withAlias]
    rw [heither (by decide) (by decide), heither (by decide) (by decide),
      heither (by decide) (by decide)]
  | _ => rfl

theorem value?_optional_respell {v : Json} (hu : IsUnambiguous v) :
    (Schema.optional ofJson (respell chosen v)).value? = (Schema.optional ofJson v).value? := by
  cases v with
  | obj fields =>
    change (some <$> ofJson (respell chosen (.obj fields))).value?
      = (some <$> ofJson (.obj fields)).value?
    rw [Checked.value?_map, Checked.value?_map, value?_respell hu]
  | _ => rfl

end BlockRules

/-! ## Answers -/

namespace Payload

/-- The fields of an answer that have two spellings. -/
def spellings : List (String × String) :=
  [("aiReferrers", "ai_referrers"), ("propertySettings", "property_settings")]

/-- An answer with the other spelling of the chosen fields and of the chosen rules. -/
def respell (chosen inner : Text → Bool) (fields : Fields) : Fields :=
  Schema.respell spellings chosen
    (revise ["propertySettings", "property_settings"] (BlockRules.respell inner) fields)

/-- No field of an answer, and none of its rules, is there in both of its spellings. -/
structure IsUnambiguous (fields : Fields) : Prop where
  outer : Unambiguous spellings fields
  rules : ∀ v ∈ eitherField? fields "propertySettings" "property_settings",
    BlockRules.IsUnambiguous v

variable {chosen inner : Text → Bool} {fields : Fields}

theorem field?_respell {name : String} (hname : otherSpelling spellings (Text.ofString name)
    = Text.ofString name) (hrules : name ∉ ["propertySettings", "property_settings"]) :
    field? (respell chosen inner fields) name = field? fields name := by
  rw [respell, field?_respell_of_fixed (by decide) hname, field?_revise]
  simp only [if_neg hrules, Option.map_id']

theorem eitherField?_respell_referrers (hu : IsUnambiguous fields) :
    eitherField? (respell chosen inner fields) "aiReferrers" "ai_referrers"
      = eitherField? fields "aiReferrers" "ai_referrers" := by
  rw [respell, eitherField?_respell _ (by decide) (unambiguous_revise hu.outer) (by decide)
    (by decide), eitherField?_revise]
  simp only [List.mem_cons, String.reduceEq, List.not_mem_nil, or_self, if_false, Option.map_id',
    eitherField?]

theorem eitherField?_respell_rules (hu : IsUnambiguous fields) :
    eitherField? (respell chosen inner fields) "propertySettings" "property_settings"
      = (eitherField? fields "propertySettings" "property_settings").map
        (BlockRules.respell inner) := by
  rw [respell, eitherField?_respell _ (by decide) (unambiguous_revise hu.outer) (by decide)
    (by decide), eitherField?_revise]
  simp only [List.mem_cons, true_or, or_true, if_true, Option.map_or, eitherField?]

theorem value?_respell (hu : IsUnambiguous fields) :
    (ofFields (respell chosen inner fields)).value? = (ofFields fields).value? := by
  have hrules : (withAlias none (Schema.optional BlockRules.ofJson)
      (respell chosen inner fields) "propertySettings" "property_settings").value?
      = (withAlias none (Schema.optional BlockRules.ofJson) fields "propertySettings"
        "property_settings").value? := by
    rw [value?_withAlias, value?_withAlias, eitherField?_respell_rules hu]
    rcases hv : eitherField? fields "propertySettings" "property_settings" with _ | v
    · rfl
    · exact BlockRules.value?_optional_respell (hu.rules v hv)
  simp only [ofFields, Checked.value?_map, Checked.value?_seq, hrules]
  rw [required_congr (field?_respell (by decide) (by decide)),
    withDefault_congr (field?_respell (by decide) (by decide)), value?_withAlias,
    eitherField?_respell_referrers hu, value?_withAlias none _ fields "aiReferrers"]

end Payload

/-! ## Datasets -/

/-- The value that a document spells. -/
def Json.Spells (bytes : Bytes) (v : Json) : Prop :=
  ∃ document, Text.Utf8.decodeChars? bytes = some document ∧ Strict.read document = .ok v

theorem Json.spells_encodeChars {document : List Char} {v : Json}
    (h : Strict.read document = .ok v) : Spells (Text.Utf8.encodeChars document) v :=
  ⟨document, Text.Utf8.decodeChars?_encodeChars document, h⟩

/-- The dataset of a cached value, if there is one. -/
def Dataset.Stored.dataset? : Dataset.Stored → Option Dataset
  | .found d => some d
  | _ => none

/-- A cache in which some bytes have been stored as its dataset. -/
def Cache.storing {τ : Type} [TimeScale τ] (c : Cache τ) (bytes : Bytes) (ttl now : τ) : Cache τ :=
  { c with store := c.store.set Dataset.cacheKey bytes ttl now }

namespace Dataset

/-- A stored dataset with the other spelling of the chosen rules. -/
def respell (chosen : Text → Bool) (fields : Fields) : Fields :=
  revise ["settings"] (BlockRules.respell chosen) fields

/-- None of the rules of a stored dataset is there in both of its spellings. -/
def IsUnambiguous (fields : Fields) : Prop :=
  ∀ v ∈ field? fields "settings", BlockRules.IsUnambiguous v

variable {chosen inner : Text → Bool} {fields : Fields} {bytes bytes' : Bytes}

theorem toOption_ofPayload (fields : Fields) (t : DateTime) :
    (ofPayload (.obj fields) t).toOption
      = if (field? fields "patterns").any (·.isTruthy) then
          (Payload.ofFields fields).value?.map (·.toDataset t)
        else none := by
  unfold ofPayload
  dsimp only
  cases (field? fields "patterns").any (·.isTruthy) with
  | false => rfl
  | true => rcases Payload.ofFields fields with p | (_ | ⟨i, l⟩) <;> rfl

theorem value?_respell (hu : IsUnambiguous fields) (source : Source) :
    (ofFields source (respell chosen fields)).value? = (ofFields source fields).value? := by
  have hsame : ∀ name, name ∉ ["settings"] →
      field? (respell chosen fields) name = field? fields name := fun name hname => by
    rw [respell, field?_revise]
    simp only [if_neg hname, Option.map_id']
  have hrules : (withDefault {} BlockRules.ofJson (respell chosen fields) "settings").value?
      = (withDefault {} BlockRules.ofJson fields "settings").value? := by
    rw [value?_withDefault, value?_withDefault, respell, field?_revise]
    rcases hv : field? fields "settings" with _ | v
    · rfl
    · exact BlockRules.value?_respell (hu v hv)
  simp only [ofFields, Checked.value?_map, Checked.value?_seq, hrules]
  rw [required_congr (hsame "patterns" (by decide)),
    withDefault_congr (hsame "ai_referrers" (by decide)),
    withDefault_congr (hsame "version" (by decide)),
    withDefault_congr (hsame "synced_at" (by decide))]

theorem ofBytes_of_spells {v : Json} (h : Spells bytes v) : ofBytes bytes = ofJson .document v := by
  obtain ⟨document, hd, hv⟩ := h
  simp only [ofBytes, hd, Schema.ofDocument, hv]

theorem Stored.dataset?_eq_some_iff {s : Stored} {d : Dataset} :
    s.dataset? = some d ↔ s = .found d := by
  cases s <;> simp [dataset?]

/-- A cached value counts as what its bytes are found to be. -/
theorem dataset?_ofStored_congr (h : (ofBytes bytes').value? = (ofBytes bytes).value?) :
    (ofStored (some bytes')).dataset? = (ofStored (some bytes)).dataset? := by
  refine Option.ext fun d => ?_
  have hok : ofBytes bytes' = .ok d ↔ ofBytes bytes = .ok d := by
    rw [← Checked.value?_eq_some_iff, h, Checked.value?_eq_some_iff]
  simp only [Stored.dataset?_eq_some_iff, ofStored_eq_found_iff, Option.some.injEq,
    exists_eq_left', hok]

end Dataset

theorem Cache.dataset_storing {τ : Type} [TimeScale τ] (c : Cache τ) (bytes : Bytes)
    (ttl now later : τ) : ((c.storing bytes ttl now).dataset later).map (·.1)
      = match c.noReading with
        | some reason => .error reason
        | none => .ok (if TimeScale.le (TimeScale.add now ttl) later then none
            else (Dataset.ofStored (some bytes)).dataset?) := by
  have hget : (c.store.set Dataset.cacheKey bytes ttl now).get Dataset.cacheKey later
      = if TimeScale.le (TimeScale.add now ttl) later
        then (none, (c.store.set Dataset.cacheKey bytes ttl now).erase Dataset.cacheKey)
        else (some bytes, c.store.set Dataset.cacheKey bytes ttl now) := by
    rw [Store.get, Store.find?_set, if_pos rfl]
  unfold dataset get storing
  rcases c.noReading with _ | reason
  · simp only [hget]
    split_ifs
    · rfl
    · rcases Dataset.ofStored (some bytes) with _ | issues | d <;> rfl
  · rfl

namespace Dataset

/-- Which of its two spellings a field has makes no difference: an answer is the same dataset or is
malformed in both, and bytes in a cache are found to be the same dataset or to be none. -/
theorem either_spelling {τ : Type} [TimeScale τ] (fields : Fields) (chosen inner : Text → Bool) :
    (Payload.IsUnambiguous fields → ∀ t,
      (∃ d, ofPayload (.obj fields) t = .ok d
          ∧ ofPayload (.obj (Payload.respell chosen inner fields)) t = .ok d)
        ∨ ∃ fault fault', ofPayload (.obj fields) t = .error fault
          ∧ ofPayload (.obj (Payload.respell chosen inner fields)) t = .error fault'
          ∧ (SyncError.payload fault).kind = "MalformedResponse"
          ∧ (SyncError.payload fault').kind = "MalformedResponse")
      ∧ (IsUnambiguous fields → ∀ {bytes bytes' : Bytes}, Spells bytes (.obj fields) →
        Spells bytes' (.obj (respell inner fields)) → ∀ (c : Cache τ) (ttl now later : τ),
          ((c.storing bytes' ttl now).dataset later).map (·.1)
            = ((c.storing bytes ttl now).dataset later).map (·.1)) := by
  refine ⟨fun hu t => ?_, fun hu bytes bytes' hb hb' c ttl now later => ?_⟩
  · have hsame : (ofPayload (.obj (Payload.respell chosen inner fields)) t).toOption
        = (ofPayload (.obj fields) t).toOption := by
      rw [toOption_ofPayload, toOption_ofPayload, Payload.value?_respell hu,
        Payload.field?_respell (by decide) (by decide)]
    rcases h : ofPayload (.obj fields) t with fault | d
    · rcases h' : ofPayload (.obj (Payload.respell chosen inner fields)) t with fault' | d'
      · exact .inr ⟨fault, fault', rfl, rfl, rfl, rfl⟩
      · rw [h, h'] at hsame
        cases hsame
    · rcases h' : ofPayload (.obj (Payload.respell chosen inner fields)) t with fault' | d'
      · rw [h, h'] at hsame
        cases hsame
      · rw [h, h'] at hsame
        obtain rfl : d' = d := Option.some.inj hsame
        exact .inl ⟨d', rfl, rfl⟩
  · have hsame : (ofStored (some bytes')).dataset? = (ofStored (some bytes)).dataset? := by
      refine dataset?_ofStored_congr ?_
      rw [ofBytes_of_spells hb, ofBytes_of_spells hb']
      exact value?_respell hu .document
    rw [Cache.dataset_storing, Cache.dataset_storing, hsame]

/-- Rules against shops, with the names of their two fields. -/
def shopRules (trainers blocks : String) : Json :=
  mkObj [(trainers, .bool true), (blocks, .arr [.ofString "category:Shop"])]

/-- An answer with one pattern and with rules, under a name for them. -/
def shopAnswer (name : String) (rules : Json) : Fields :=
  namedFields [("patterns", .arr [mkObj [("pattern", .ofString "x")]]), (name, rules)]

/-- The same as a stored document. -/
def shopDocument (trainers blocks : String) : List Char :=
  ("\x7b\"patterns\":[\x7b\"pattern\":\"x\"\x7d],\"settings\":\x7b\"" ++ trainers ++ "\":true,\""
    ++ blocks ++ "\":[\"category:Shop\"]\x7d\x7d").toList

/-- The answer says it as the service does but for the blocks, and then as the store does but for
the trainers. -/
theorem either_spelling_shop :
    (∃ d, ofPayload (.obj (shopAnswer "propertySettings"
          (shopRules "blockAiModelTrainers" "custom_blocks"))) ⟨0, none⟩ = .ok d
        ∧ ofPayload (.obj (shopAnswer "property_settings"
          (shopRules "blockAiModelTrainers" "customBlocks"))) ⟨0, none⟩ = .ok d
        ∧ d.rules = { blockModelTrainers := true,
                      blocks := .ofList [Text.ofString "category:Shop"] })
      ∧ ((({} : Cache Micros).storing (Text.Utf8.encodeChars
            (shopDocument "blockAiModelTrainers" "customBlocks")) ⟨9⟩ ⟨0⟩).dataset ⟨1⟩).map (·.1)
        = ((({} : Cache Micros).storing (Text.Utf8.encodeChars
            (shopDocument "blockAiModelTrainers" "custom_blocks")) ⟨9⟩ ⟨0⟩).dataset ⟨1⟩).map (·.1) := by
  have hrules : BlockRules.IsUnambiguous (shopRules "blockAiModelTrainers" "custom_blocks") := by
    rintro _ ⟨⟩ e he
    revert e
    decide
  have hanswer : Payload.IsUnambiguous (shopAnswer "propertySettings"
      (shopRules "blockAiModelTrainers" "custom_blocks")) := by
    refine ⟨by unfold Unambiguous; decide, ?_⟩
    rintro v ⟨⟩
    exact hrules
  constructor
  · rcases (either_spelling (τ := Micros) _ (fun _ => true) (· == Text.ofString "custom_blocks")).1
        hanswer ⟨0, none⟩ with ⟨d, hd, hd'⟩ | ⟨fault, -, hfault, -⟩
    · exact ⟨d, hd, hd', Except.ok.inj (hd.symm.trans rfl) ▸ rfl⟩
    · cases hfault
  · have hdocument : IsUnambiguous (shopAnswer "settings"
        (shopRules "blockAiModelTrainers" "custom_blocks")) := by
      rintro v ⟨⟩
      exact hrules
    have hrespelled : respell (· == Text.ofString "custom_blocks") (shopAnswer "settings"
        (shopRules "blockAiModelTrainers" "custom_blocks"))
        = shopAnswer "settings" (shopRules "blockAiModelTrainers" "customBlocks") := rfl
    have hread : Strict.read (shopDocument "blockAiModelTrainers" "custom_blocks") = .ok (.obj
        (shopAnswer "settings" (shopRules "blockAiModelTrainers" "custom_blocks"))) := by cbv
    have hread' : Strict.read (shopDocument "blockAiModelTrainers" "customBlocks") = .ok (.obj
        (respell (· == Text.ofString "custom_blocks") (shopAnswer "settings"
          (shopRules "blockAiModelTrainers" "custom_blocks")))) := by
      rw [hrespelled]
      cbv
    have hsame := (either_spelling (τ := Micros) _ (fun _ => true)
      (· == Text.ofString "custom_blocks")).2 hdocument (spells_encodeChars hread)
      (spells_encodeChars hread')
    exact hsame {} ⟨9⟩ ⟨0⟩ ⟨1⟩

end Dataset

end BotSentry
