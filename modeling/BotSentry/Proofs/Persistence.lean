import BotSentry.Host.Action
import BotSentry.Proofs.DatasetDocuments
import BotSentry.Proofs.Storage
import BotSentry.Proofs.SyncEnds

/-!
# The cache loses nothing

A dataset that is brought into force is stored as its document, and the document is found until it
expires (`Cache.dataset_keep`). What a client starts from is then that dataset, and the client is as fresh
as the dataset is (`dataset_restored`): its time has a place on the scale, since only the clock times
without an offset on the first day of the year 1 have none (`TimeScale.Dated`). On whole microseconds that
place is the distance of the instant from 1970 (`Micros.ofDateTime_eq`).
-/

namespace BotSentry

/-- A scale on which all date-times have a place, except those without an offset on the very first
day. -/
class TimeScale.Dated (τ : Type) [TimeScale τ] : Prop where
  exists_ofDateTime_eq (t : DateTime) (h : t.offset.isSome ∨ DateTime.microsPerDay ≤ t.shown) :
    ∃ x : τ, TimeScale.ofDateTime t = .ok x

theorem Micros.ofDateTime_eq {t : DateTime}
    (h : t.offset.isSome ∨ DateTime.microsPerDay ≤ t.shown) :
    TimeScale.ofDateTime t = .ok (⟨t.instant - DateTime.epoch⟩ : Micros) := by
  refine if_neg fun hfirst => ?_
  simp only [Bool.and_eq_true, Option.isNone_iff_eq_none, decide_eq_true_eq] at hfirst
  rcases h with h | h
  · simp [hfirst.1] at h
  · omega

instance : TimeScale.Dated Micros where
  exists_ofDateTime_eq _ h := ⟨_, Micros.ofDateTime_eq h⟩

instance : TimeScale.Dated Float where
  exists_ofDateTime_eq t h := by
    change ∃ x, Seconds.ofDateTime t = .ok x
    unfold Seconds.ofDateTime
    split
    · rename_i hnone
      rw [if_neg (by simp [hnone] at h; omega)]
      exact ⟨_, rfl⟩
    · exact ⟨_, rfl⟩

theorem DateTime.microsPerDay_le_shown {t : DateTime} (h : 1970 ≤ t.date.year) :
    microsPerDay ≤ t.shown := by
  by_contra hfirst
  rw [date, Nat.div_eq_of_lt (Nat.lt_of_not_le hfirst)] at h
  revert h
  decide

variable {τ : Type} [TimeScale τ] {d : Dataset}

theorem Store.get_set {s : Store τ} {key : String} {value : Bytes} {ttl now later : τ}
    (h : TimeScale.le (TimeScale.add now ttl) later = false) :
    (s.set key value ttl now).get key later = (some value, s.set key value ttl now) := by
  rw [get, find?_set, if_pos rfl]
  simp [h]

theorem Dataset.Storable.ofStored_eq (h : d.Storable) (hne : d.patterns ≠ []) {bytes : Bytes}
    (hbytes : d.encode = .ok bytes) : Dataset.ofStored (some bytes) = .found d := by
  obtain rfl := Except.ok.inj (h.encode_eq.symm.trans hbytes)
  have hd := h.ofBytes_eq
  rcases hb : Text.Utf8.encodeChars (Json.written d.toJson) with _ | ⟨b, bs⟩
  · rw [hb] at hd
    cases hd
  · rw [hb] at hd
    simp [Dataset.ofStored, hd, hne]

namespace Cache

theorem keep_eq {c : Cache τ} {bytes : Bytes} (hd : d.encode = .ok bytes)
    (hw : c.noWriting = none) (ttl now : τ) : c.keep d ttl now
      = ({ c with store := c.store.set Dataset.cacheKey bytes ttl now }, []) := by
  simp only [keep, put, set, hd, hw]

/-- A dataset that has been put into a cache in reach is found there until it expires. -/
theorem dataset_keep {c : Cache τ} (hd : d.Storable) (hne : d.patterns ≠ [])
    (hw : c.noWriting = none) (hr : c.noReading = none) {ttl now later : τ}
    (hlater : TimeScale.le (TimeScale.add now ttl) later = false) :
    (c.keep d ttl now).1.dataset later = .ok (some d, (c.keep d ttl now).1, []) := by
  have hbytes := hd.encode_eq
  rw [keep_eq hbytes hw]
  simp only [dataset, get, hr, Store.get_set hlater, hd.ofStored_eq hne hbytes]

end Cache

/-- Until it expires, a dataset that has been brought into force is read from the cache as it is, and a
client that is built on the cache starts from it, at the time of its synchronisation. -/
theorem dataset_restored [TimeScale.Dated τ] {h : Host τ} {c : Client τ}
    (hc : h.client? h.current = some c) (hw : h.cache.noWriting = none)
    (hr : h.cache.noReading = none) (hd : d.Storable) (hne : d.patterns ≠ []) {now : τ}
    (hnow : TimeScale.le (TimeScale.add h.clock (TimeScale.ofSeconds c.settings.cacheTtl)) now
      = false) :
    (h.replace d).1.cache.dataset now = .ok (some d, (h.replace d).1.cache, [])
      ∧ ∀ settings, (∀ t ∈ d.syncedAt, 1970 ≤ t.date.year ∧ t.date.year ≤ 9998) →
        ∃ c' : Client τ, Client.build settings (h.replace d).1.cache now
            = .ok (c', (h.replace d).1.cache, [])
          ∧ c'.snapshot.dataset = d
          ∧ (d.syncedAt = none → c'.lastSync = TimeScale.zero)
          ∧ ∀ t ∈ d.syncedAt, TimeScale.ofDateTime t = .ok c'.lastSync := by
  have hcache : (h.replace d).1.cache
      = (h.cache.keep d (TimeScale.ofSeconds c.settings.cacheTtl) h.clock).1 := by
    simp only [Host.replace, hc]
    rfl
  have hfound := Cache.dataset_keep hd hne hw hr hnow
  rw [hcache]
  refine ⟨hfound, fun settings hyears => ?_⟩
  rw [Client.build, hfound]
  simp only [Snapshot.initial, Option.getD_some]
  rcases hs : d.syncedAt with _ | t
  · exact ⟨_, rfl, rfl, fun _ => rfl, by simp⟩
  · have hshown := DateTime.microsPerDay_le_shown (hyears t hs).1
    obtain ⟨x, hx⟩ : ∃ x : τ, _ := TimeScale.Dated.exists_ofDateTime_eq t (.inr hshown)
    simp only [hx]
    exact ⟨_, rfl, rfl, by simp, by simpa using hx⟩

/-- A dataset with quotes, control characters and characters of every width, which was synchronised a
second and a half into 1970 by a clock two hours ahead. -/
def quotedDataset : Dataset where
  patterns := [{
    pattern := "Bot/\\d \"x\""
    kind := Text.ofString "a\tb\nc\x01"
    category := Text.ofString "é€😀"
    subcategory := []
    company := none
    isCompliant := true
    isModelTrainer := false
    intent := Text.ofString "unknown"
    url := some (Text.ofString "https://www.spyglasses.io/api/patterns") }]
  rules := { blocks := ScopeSet.ofList [Text.ofString "b", Text.ofString "a"] }
  version := Text.ofString "2"
  syncedAt := some { shown := DateTime.epoch + 1500000, offset := some 7200000000 }

theorem storable_quotedDataset : quotedDataset.Storable where
  patterns := by
    simp only [quotedDataset, List.forall_mem_singleton]
    exact ⟨by decide, Text.isUnicode_ofChars, Text.isUnicode_ofChars, Text.isUnicode_nil,
      by simp, Text.isUnicode_ofChars, by simp [Text.ofString]⟩
  referrers := by simp [quotedDataset]
  rules := by
    refine ⟨fun t ht => ?_, by simp [quotedDataset, ScopeSet.empty]⟩
    have hmem := ScopeSet.mem_ofList.1 ht
    simp only [List.mem_cons, List.not_mem_nil, or_false] at hmem
    rcases hmem with rfl | rfl <;> exact Text.isUnicode_ofChars
  version := Text.isUnicode_ofChars
  syncedAt := by
    rintro t ⟨⟩
    exact ⟨.document, .ofString "1970-01-01T00:00:01.5+02:00", rfl⟩

theorem quotedDataset_restored : ∃ c : Client Micros,
    ((Host.answering []).replace quotedDataset).1.cache.dataset ⟨3600000000⟩
        = .ok (some quotedDataset, ((Host.answering []).replace quotedDataset).1.cache, [])
      ∧ Client.build {} ((Host.answering []).replace quotedDataset).1.cache ⟨3600000000⟩
        = .ok (c, ((Host.answering []).replace quotedDataset).1.cache, [])
      ∧ c.snapshot.dataset = quotedDataset ∧ c.lastSync = ⟨-7198500000⟩ := by
  obtain ⟨hfound, hbuild⟩ := dataset_restored (show (Host.answering []).client? _ = some _ from rfl)
    rfl rfl storable_quotedDataset (by decide)
    (show TimeScale.le _ (⟨3600000000⟩ : Micros) = false from by decide)
  obtain ⟨c, hc, hd, -, hsync⟩ := hbuild {} (by rintro t ⟨⟩; decide)
  exact ⟨c, hfound, hc, hd, (Except.ok.inj (hsync _ rfl)).symm⟩

end BotSentry
