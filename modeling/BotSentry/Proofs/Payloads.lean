import BotSentry.Proofs.Grammar

/-!
# What an answer brings can be stored

An answer of the service that passes validation has patterns, none of which is empty, and its
dataset is stamped with the time of the answer (`Dataset.ofPayload_ok`). Its texts may hold
surrogates, for which there are no bytes, and that is all that keeps it from being stored: what has
bytes has texts without surrogates everywhere (`Dataset.storable_of_encode`).
-/

namespace BotSentry

open Schema Text Json

/-! ## What passes validation -/

namespace BotPattern

variable {fields : Fields} {v : Json}

theorem Fits.ne_empty (h : Fits fields) : (ofGiven fields).pattern ≠ "" := by
  obtain ⟨v, hv, s, hs, rfl⟩ := h.pattern
  simpa [ofGiven, hv, asString_ofString] using hs

theorem ne_empty_of_isArrayOf (h : v.IsArrayOf (IsObjectWith Fits)) :
    ∀ p ∈ v.elements.map (ofGiven ·.fields), p.pattern ≠ "" := by
  obtain ⟨l, rfl, hl⟩ := h
  intro p hp
  obtain ⟨w, hw, rfl⟩ := List.mem_map.1 hp
  obtain ⟨fields, rfl, hfits⟩ := hl w hw
  exact hfits.ne_empty

end BotPattern

theorem Dataset.ne_empty_of_ofJson {source : Source} {v : Json} {d : Dataset}
    (h : Dataset.ofJson source v = .ok d) : ∀ p ∈ d.patterns, p.pattern ≠ "" := by
  cases v with
  | obj fields =>
    change Dataset.ofFields source fields = .ok d at h
    simp only [Dataset.ofFields, Checked.seq_eq_ok, Checked.map_eq_ok] at h
    obtain ⟨-, _, ⟨-, _, ⟨-, _, ⟨-, _, ⟨patterns, hpatterns, rfl⟩, -, rfl⟩, -, rfl⟩, -, rfl⟩, -,
      rfl⟩ := h
    obtain ⟨⟨w, hw, hfits⟩, rfl⟩ := (decides_required
      (decides_items BotPattern.decides_ofJson .notTuple) fields "patterns").eq_ok_iff.1 hpatterns
    rw [hw]
    exact BotPattern.ne_empty_of_isArrayOf hfits
  | null | bool | int | float | str | arr => cases h

/-- No pattern of a stored dataset is empty either. -/
theorem Dataset.ne_empty_of_ofBytes {bytes : Bytes} {d : Dataset}
    (h : Dataset.ofBytes bytes = .ok d) : ∀ p ∈ d.patterns, p.pattern ≠ "" := by
  unfold Dataset.ofBytes Schema.ofDocument at h
  split at h
  · split at h
    · exact Dataset.ne_empty_of_ofJson h
    · cases h
  · cases h

/-- The dataset of an answer has patterns, none of which is empty, and it is stamped. -/
theorem Dataset.ofPayload_ok {v : Json} {t : DateTime} {d : Dataset}
    (h : Dataset.ofPayload v t = .ok d) :
    d.patterns ≠ [] ∧ (∀ p ∈ d.patterns, p.pattern ≠ "") ∧ d.syncedAt = some t := by
  obtain ⟨fields, rfl, hfits⟩ := Dataset.fits_of_ofPayload h
  rw [Dataset.ofPayload_of_fits hfits] at h
  obtain rfl := Except.ok.inj h
  obtain ⟨l, hl, hne, hall⟩ := hfits.patterns
  have hpatterns : (Dataset.ofGiven fields t).patterns
      = (Json.arr l).elements.map (BotPattern.ofGiven ·.fields) := by
    rw [Dataset.ofGiven, hl]
    rfl
  rw [hpatterns]
  refine ⟨fun hnil => hne (List.map_eq_nil_iff.1 hnil), ?_, rfl⟩
  exact BotPattern.ne_empty_of_isArrayOf ⟨l, rfl, hall⟩

/-! ## What has bytes -/

namespace Json

variable {v : Json} {t : Text}

theorem isUnicode_of_str (h : unencodable? (.str t) = none) : IsUnicode t :=
  isUnicode_of_surrogates? h

theorem isUnicode_of_ofOption {o : Option Text} (h : unencodable? (.ofOption o) = none) :
    ∀ t ∈ o, IsUnicode t := by
  rintro t rfl
  exact isUnicode_of_str h

theorem unencodable?_of_arr {l : List Json} (h : unencodable? (.arr l) = none) :
    ∀ v ∈ l, unencodable? v = none := by
  change unencodableItem? l = none at h
  induction l with
  | nil => simp
  | cons v l ih =>
    rw [unencodableItem?, Option.orElse_eq_none] at h
    exact List.forall_mem_cons.2 ⟨h.1, ih h.2⟩

theorem unencodable?_of_mkObj {fields : List (String × Json)}
    (h : unencodable? (mkObj fields) = none) : ∀ f ∈ fields, unencodable? f.2 = none := by
  change unencodableField? (fields.map fun f => (Text.ofString f.1, f.2)) = none at h
  induction fields with
  | nil => simp
  | cons f fields ih =>
    rw [List.map_cons, unencodableField?, Option.orElse_eq_none, Option.orElse_eq_none] at h
    exact List.forall_mem_cons.2 ⟨h.2.1, ih h.2.2⟩

theorem isUnicode_of_texts {l : List Text} (h : unencodable? (.arr (l.map .str)) = none) :
    ∀ t ∈ l, IsUnicode t := fun _ ht =>
  isUnicode_of_str (unencodable?_of_arr h _ (List.mem_map_of_mem ht))

end Json

theorem BotPattern.storable_of_toJson {p : BotPattern} (hne : p.pattern ≠ "")
    (h : unencodable? p.toJson = none) : p.Storable := by
  have hfields := unencodable?_of_mkObj h
  simp only [List.forall_mem_cons, List.not_mem_nil, false_imp_iff, implies_true, and_true]
    at hfields
  obtain ⟨-, hkind, hcategory, hsubcategory, hcompany, -, -, hintent, hurl⟩ := hfields
  exact ⟨hne, isUnicode_of_str hkind, isUnicode_of_str hcategory, isUnicode_of_str hsubcategory,
    isUnicode_of_ofOption hcompany, isUnicode_of_str hintent, isUnicode_of_ofOption hurl⟩

theorem AiReferrer.storable_of_toJson {r : AiReferrer} (h : unencodable? r.toJson = none) :
    r.Storable := by
  have hfields := unencodable?_of_mkObj h
  simp only [List.forall_mem_cons, List.not_mem_nil, false_imp_iff, implies_true, and_true]
    at hfields
  obtain ⟨hid, hname, hcompany, hurl, hpatterns, hdescription⟩ := hfields
  exact ⟨isUnicode_of_str hid, isUnicode_of_str hname, isUnicode_of_ofOption hcompany,
    isUnicode_of_ofOption hurl, isUnicode_of_texts hpatterns, isUnicode_of_str hdescription⟩

theorem BlockRules.storable_of_toJson {r : BlockRules} (h : unencodable? r.toJson = none) :
    r.Storable := by
  have hfields := unencodable?_of_mkObj h
  simp only [List.forall_mem_cons, List.not_mem_nil, false_imp_iff, implies_true, and_true]
    at hfields
  exact ⟨isUnicode_of_texts hfields.2.1, isUnicode_of_texts hfields.2.2⟩

/-- A dataset with bytes can be stored, if its patterns are not empty and its time passes
validation. -/
theorem Dataset.storable_of_encode {d : Dataset} {bytes : Bytes}
    (hne : ∀ p ∈ d.patterns, p.pattern ≠ "")
    (hsynced : ∀ t ∈ d.syncedAt, t.Storable) (h : d.encode = .ok bytes) : d.Storable := by
  have hnone : unencodable? d.toJson = none := by
    unfold Dataset.encode Json.encode at h
    split at h
    · cases h
    · assumption
  have hfields := unencodable?_of_mkObj hnone
  simp only [List.forall_mem_cons, List.not_mem_nil, false_imp_iff, implies_true, and_true]
    at hfields
  obtain ⟨hpatterns, hreferrers, hrules, hversion, -⟩ := hfields
  refine ⟨fun p hp => ?_, fun r hr => ?_, BlockRules.storable_of_toJson hrules,
    isUnicode_of_str hversion, fun t ht => DateTime.storable_iff.1 (hsynced t ht)⟩
  · exact BotPattern.storable_of_toJson (hne p hp)
      (unencodable?_of_arr hpatterns _ (List.mem_map_of_mem hp))
  · exact AiReferrer.storable_of_toJson
      (unencodable?_of_arr hreferrers _ (List.mem_map_of_mem hr))

/-- What an answer has brought can be stored as soon as there are bytes of it. -/
theorem Dataset.storable_of_ofPayload {v : Json} {t : DateTime} {d : Dataset} {bytes : Bytes}
    (h : Dataset.ofPayload v t = .ok d) (ht : t.Storable) (hbytes : d.encode = .ok bytes) :
    d.Storable := by
  obtain ⟨-, hne, hsynced⟩ := Dataset.ofPayload_ok h
  refine Dataset.storable_of_encode hne (fun t' ht' => ?_) hbytes
  rw [hsynced, Option.mem_some_iff] at ht'
  exact ht' ▸ ht

end BotSentry
