import BotSentry.Proofs.Detections
import BotSentry.Proofs.Persistence

/-!
# A client starts from its cache

Whatever bytes a cache holds, what a client starts from is clear: the dataset that they spell, if it
has patterns and has not expired, and the built-in one otherwise (`Cache.Provides`). The client starts
unless that dataset was synchronised on the very first day by a clock without an offset
(`Client.build_cases`): such a time passes the checks of a dataset, and has no place on a time scale.
-/

namespace BotSentry

/-- A clock without an offset shows the very first day. -/
def DateTime.OnFirstDay (t : DateTime) : Prop := t.offset = none ∧ t.shown < microsPerDay

/-- A scale on which all date-times have a place, except those without an offset on the very first
day. -/
class TimeScale.DatedExactly (τ : Type) [TimeScale τ] : Prop extends TimeScale.Dated τ where
  ofDateTime_onFirstDay (t : DateTime) (h : t.OnFirstDay) :
    TimeScale.ofDateTime t = (.error (.yearOutOfRange 0) : Except TimeFault τ)

instance : TimeScale.DatedExactly Micros where
  ofDateTime_onFirstDay _ h := if_pos (by simp [h.1, h.2])

instance : TimeScale.DatedExactly Float where
  ofDateTime_onFirstDay t h := by
    change Seconds.ofDateTime t = _
    unfold Seconds.ofDateTime
    split
    · exact if_pos h.2
    · rename_i hoffset
      rw [h.1] at hoffset
      cases hoffset

variable {τ : Type} [TimeScale τ]

theorem DateTime.exists_ofDateTime_eq [TimeScale.DatedExactly τ] {t : DateTime}
    (h : ¬ t.OnFirstDay) : ∃ x : τ, TimeScale.ofDateTime t = .ok x := by
  refine TimeScale.Dated.exists_ofDateTime_eq t ?_
  rcases ho : t.offset with _ | offset
  · exact .inr (Nat.le_of_not_lt fun hfirst => h ⟨ho, hfirst⟩)
  · exact .inl rfl

theorem Store.get_fst_eq_some_iff {s : Store τ} {key : String} {now : τ} {value : Bytes} :
    (s.get key now).1 = some value
      ↔ ∃ entry, s.find? key = some entry ∧ TimeScale.le entry.expires now = false
        ∧ entry.value = value := by
  unfold get
  rcases s.find? key with _ | entry
  · simp
  · dsimp only
    split_ifs with hexpired
    · simp [hexpired]
    · simpa using fun _ => hexpired

theorem Dataset.ofStored_eq_found_iff {value : Option Bytes} {d : Dataset} :
    Dataset.ofStored value = .found d
      ↔ ∃ bytes, value = some bytes ∧ Dataset.ofBytes bytes = .ok d ∧ d.patterns ≠ [] := by
  unfold ofStored
  split
  · simp
  · -- No bytes are no document.
    refine iff_of_false (by simp) ?_
    rintro ⟨bytes, he, hd, -⟩
    rw [Option.some.injEq] at he
    subst he
    cases hd
  · rename_i bytes _
    rcases hb : Dataset.ofBytes bytes with dataset | issues
    · by_cases hne : dataset.patterns = []
      · simp only [hne, List.isEmpty_nil, ↓reduceIte, reduceCtorEq, false_iff]
        rintro ⟨bytes', he, hd, hpatterns⟩
        obtain rfl := Option.some.inj he
        rw [hb, Schema.Checked.ok.injEq] at hd
        exact hpatterns (hd ▸ hne)
      · simp only [List.isEmpty_eq_false_iff.2 hne, Bool.false_eq_true, ↓reduceIte,
          Dataset.Stored.found.injEq]
        constructor
        · rintro rfl
          exact ⟨bytes, rfl, hb, hne⟩
        · rintro ⟨bytes', he, hd, -⟩
          obtain rfl := Option.some.inj he
          rwa [hb, Schema.Checked.ok.injEq] at hd
    · refine iff_of_false (by simp) ?_
      rintro ⟨bytes', he, hd, -⟩
      obtain rfl := Option.some.inj he
      rw [hb] at hd
      cases hd

namespace Cache

/-- A cache holds a dataset with patterns that has not expired. -/
def Holds (c : Cache τ) (now : τ) (d : Dataset) : Prop :=
  ∃ entry, c.store.find? Dataset.cacheKey = some entry ∧ TimeScale.le entry.expires now = false
    ∧ Dataset.ofBytes entry.value = .ok d ∧ d.patterns ≠ []

/-- The dataset to start from: the one that a cache holds, or else the built-in one. -/
def Provides (c : Cache τ) (now : τ) (d : Dataset) : Prop :=
  c.Holds now d ∨ (∀ d', ¬ c.Holds now d') ∧ d = Dataset.bootstrap

theorem holds_iff {c : Cache τ} {now : τ} {d : Dataset} :
    c.Holds now d ↔ Dataset.ofStored (c.store.get Dataset.cacheKey now).1 = .found d := by
  simp only [Holds, Dataset.ofStored_eq_found_iff, Store.get_fst_eq_some_iff]
  constructor
  · rintro ⟨entry, he, hlater, hd⟩
    exact ⟨_, ⟨entry, he, hlater, rfl⟩, hd⟩
  · rintro ⟨-, ⟨entry, he, hlater, rfl⟩, hd⟩
    exact ⟨entry, he, hlater, hd⟩

theorem Provides.unique {c : Cache τ} {now : τ} {d d' : Dataset} (h : c.Provides now d)
    (h' : c.Provides now d') : d = d' := by
  rcases h with h | ⟨hnone, rfl⟩
  · rcases h' with h' | ⟨hnone, -⟩
    · rw [holds_iff] at h h'
      rwa [h, Dataset.Stored.found.injEq] at h'
    · exact absurd h (hnone d)
  · rcases h' with h' | ⟨-, rfl⟩
    · exact absurd h' (hnone d')
    · rfl

/-- What is read from a cache in reach is the dataset to start from. -/
theorem exists_provides {c : Cache τ} (hr : c.noReading = none) (now : τ) :
    ∃ cached c' notices, c.dataset now = .ok (cached, c', notices)
      ∧ c.Provides now (Snapshot.initial cached).dataset := by
  unfold dataset get
  simp only [hr]
  rcases hs : Dataset.ofStored (c.store.get Dataset.cacheKey now).1 with _ | issues | d
  · exact ⟨none, _, _, rfl, .inr ⟨fun d hd => by simp [holds_iff, hs] at hd, rfl⟩⟩
  · exact ⟨none, _, _, rfl, .inr ⟨fun d hd => by simp [holds_iff, hs] at hd, rfl⟩⟩
  · exact ⟨some d, _, _, rfl, .inl (holds_iff.2 hs)⟩

end Cache

namespace Client

section Build

variable {cache : Cache τ} {now : τ} {d : Dataset} (settings : Settings)

/-- What is left of building a client is to find the time of its dataset. -/
theorem build_of_provides (hr : cache.noReading = none) (hd : cache.Provides now d) :
    ∃ snapshot cache' notices, snapshot.dataset = d ∧ build settings cache now
      = match (d.syncedAt.map TimeScale.ofDateTime).getD (.ok TimeScale.zero) with
        | .error fault => .error (.time fault)
        | .ok lastSync => .ok ({ settings, snapshot, lastSync }, cache', notices) := by
  obtain ⟨cached, cache', notices, he, hcached⟩ := Cache.exists_provides hr now
  obtain rfl := hd.unique hcached
  refine ⟨_, cache', notices, rfl, ?_⟩
  unfold build
  simp only [he]
  rcases (Snapshot.initial cached).dataset.syncedAt with _ | t <;> rfl

variable [TimeScale.DatedExactly τ]

theorem build_eq_error (hr : cache.noReading = none) (hd : cache.Provides now d)
    (h : ∃ t ∈ d.syncedAt, t.OnFirstDay) :
    build settings cache now = .error (.time (.yearOutOfRange 0)) := by
  obtain ⟨t, ht, hfirst⟩ := h
  obtain ⟨snapshot, cache', notices, -, he⟩ := build_of_provides settings hr hd
  rw [he, Option.mem_def.1 ht, Option.map_some, Option.getD_some,
    TimeScale.DatedExactly.ofDateTime_onFirstDay t hfirst]

theorem exists_build_eq_ok (hr : cache.noReading = none) (hd : cache.Provides now d)
    (h : ∀ t ∈ d.syncedAt, ¬ t.OnFirstDay) :
    ∃ c cache' notices, build settings cache now = .ok (c, cache', notices)
      ∧ c.settings = settings ∧ c.snapshot.dataset = d := by
  obtain ⟨snapshot, cache', notices, hsnapshot, he⟩ := build_of_provides settings hr hd
  obtain ⟨lastSync, hlast⟩ : ∃ x : τ,
      (d.syncedAt.map TimeScale.ofDateTime).getD (.ok TimeScale.zero) = .ok x := by
    rcases hs : d.syncedAt with _ | t
    · exact ⟨_, rfl⟩
    · exact DateTime.exists_ofDateTime_eq (h t hs)
  rw [hlast] at he
  exact ⟨_, cache', notices, he, rfl, hsnapshot⟩

/-- A client starts from what its cache provides, unless that was synchronised on the very first day
by a clock without an offset. -/
theorem build_cases (hr : cache.noReading = none) (now : τ) : ∃ d, cache.Provides now d
    ∧ ((∀ t ∈ d.syncedAt, ¬ t.OnFirstDay)
        ∧ (∃ c cache' notices, build settings cache now = .ok (c, cache', notices)
          ∧ c.settings = settings ∧ c.snapshot.dataset = d)
      ∨ (∃ t ∈ d.syncedAt, t.OnFirstDay)
        ∧ build settings cache now = .error (.time (.yearOutOfRange 0))) := by
  obtain ⟨cached, -, -, -, hd⟩ := Cache.exists_provides hr now
  refine ⟨_, hd, ?_⟩
  by_cases h : ∀ t ∈ (Snapshot.initial cached).dataset.syncedAt, ¬ t.OnFirstDay
  · exact .inl ⟨h, exists_build_eq_ok settings hr hd h⟩
  · have h : ∃ t ∈ (Snapshot.initial cached).dataset.syncedAt, t.OnFirstDay := by
      simpa using h
    exact .inr ⟨h, build_eq_error settings hr hd h⟩

end Build

/-- A stored dataset with one pattern, synchronised at some time. -/
def stored (syncedAt : String) : Bytes := Text.Utf8.encodeChars
  ("\x7b\"patterns\":[\x7b\"pattern\":\"x\"\x7d],\"synced_at\":\"" ++ syncedAt ++ "\"\x7d").toList

/-- A cache that holds some bytes for a day. -/
def cacheOf (bytes : Bytes) : Cache Micros where
  store := Store.empty.set Dataset.cacheKey bytes ⟨86400000000⟩ ⟨0⟩

/-- The dataset that is stored. -/
def dated (shown : Nat) : Dataset where
  patterns := [.ofPattern "x"]
  version := Dataset.defaultVersion
  syncedAt := some { shown }

theorem holds_cacheOf {bytes : Bytes} {shown : Nat} (h : Dataset.ofBytes bytes = .ok (dated shown)) :
    (cacheOf bytes).Holds ⟨0⟩ (dated shown) :=
  ⟨⟨bytes, ⟨86400000000⟩⟩, rfl, rfl, h, by simp [dated]⟩

theorem build_on_second_day : ∃ c cache' notices,
    build {} (cacheOf (stored "0001-01-02T00:00:00")) ⟨0⟩ = .ok (c, cache', notices)
      ∧ c.snapshot.dataset = dated DateTime.microsPerDay := by
  have hbytes : Dataset.ofBytes (stored "0001-01-02T00:00:00")
      = .ok (dated DateTime.microsPerDay) := by cbv
  obtain ⟨d, hd, h⟩ := build_cases {} (show (cacheOf _).noReading = none from rfl) ⟨0⟩
  obtain rfl := hd.unique (.inl (holds_cacheOf hbytes))
  rcases h with ⟨-, c, cache', notices, he, -, hc⟩ | ⟨⟨t, ht, hfirst⟩, -⟩
  · exact ⟨c, cache', notices, he, hc⟩
  · obtain rfl := Option.some.inj ht
    exact absurd hfirst.2 (by decide)

/-- A dataset that passes all checks stops the host from starting. -/
theorem build_on_first_day : Dataset.ofBytes (stored "0001-01-01T00:00:00") = .ok (dated 0)
    ∧ build {} (cacheOf (stored "0001-01-01T00:00:00")) ⟨0⟩ = .error (.time (.yearOutOfRange 0)) := by
  have hbytes : Dataset.ofBytes (stored "0001-01-01T00:00:00") = .ok (dated 0) := by cbv
  exact ⟨hbytes, build_eq_error {} rfl (.inl (holds_cacheOf hbytes)) ⟨_, rfl, rfl, by decide⟩⟩

end Client

end BotSentry
