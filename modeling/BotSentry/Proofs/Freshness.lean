import BotSentry.Proofs.Pacing
import BotSentry.Proofs.Payloads
import BotSentry.Proofs.Startup

/-!
# A restart is as fresh as it looks

What a synchronisation has brought is cached as its document, with its own time in it. A client that
is built on the cache later reads that time back, and whether the cache has forgotten the document
by then is decided elsewhere, by the time until which it is kept. Both come to the same on whole
microseconds (`restart_fresh_iff`): the client starts from that dataset exactly as long as it is not
due, and otherwise from the built-in one, for which it is due.

In between the cache may be read, which makes it forget what has expired, but not written
(`Cache.ReadUntil`).
-/

namespace BotSentry

/-- A cache is read at times until `t`, and goes out of reach and comes back, but it is not written.
-/
inductive Cache.ReadUntil (t : Micros) (c : Cache Micros) : Cache Micros → Prop
  | refl : ReadUntil t c c
  | read {c₁ c₂ : Cache Micros} {key : String} {now : Micros} {value : Option Bytes} :
      ReadUntil t c c₁ → now.count ≤ t.count → c₁.get key now = .ok (value, c₂) →
      ReadUntil t c c₂
  | reach {c₁ : Cache Micros} (noReading noWriting : Option String) :
      ReadUntil t c c₁ → ReadUntil t c { c₁ with noReading, noWriting }

/-! ## Entries -/

section Entries

variable {t : Micros} {key : String} {entry : Store.Entry Micros}

/-- An entry is there until something is written, or it has expired. -/
theorem Cache.ReadUntil.find? {c c' : Cache Micros} (hread : c.ReadUntil t c')
    (he : c.store.find? key = some entry) : c'.store.find? key = some entry
      ∨ c'.store.find? key = none ∧ entry.expires.count ≤ t.count := by
  induction hread with
  | refl => exact .inl he
  | @read c₁ c₂ other now value _ hnow hget ih =>
    have hstore : c₂.store = (c₁.store.get other now).2 := by
      unfold get at hget
      split at hget
      · cases hget
      · obtain ⟨-, rfl⟩ := Prod.mk.inj (Except.ok.inj hget)
        rfl
    rw [hstore]
    rcases ih with hfound | ⟨hgone, hexpired⟩
    · rcases Store.find?_get other now hfound with hkept | ⟨hgone, hexpired⟩
      · exact .inl hkept
      · exact .inr ⟨hgone, Int.le_trans (of_decide_eq_true hexpired) hnow⟩
    · exact .inr ⟨Store.find?_get_none other now hgone, hexpired⟩
  | reach noReading noWriting _ ih => exact ih

end Entries

/-- What a clock shows can be stored, and stands for the time at which it was read. -/
theorem Micros.storable_of_toDateTime {x : Micros} {t : DateTime}
    (h : TimeScale.toDateTime x = .ok t) :
    t.Storable ∧ TimeScale.ofDateTime t = (.ok x : Except TimeFault Micros) := by
  change Micros.toDateTime x = .ok t at h
  unfold Micros.toDateTime at h
  dsimp only at h
  split_ifs at h with hrange
  simp only [Bool.and_eq_true, decide_eq_true_eq] at hrange
  obtain rfl := Except.ok.inj h
  refine ⟨⟨by simp only; omega, ?_⟩, ?_⟩
  · rintro o ⟨⟩
    exact ⟨0, by decide, rfl⟩
  · rw [Micros.ofDateTime_eq (.inl rfl)]
    refine congrArg Except.ok (congrArg Micros.mk ?_)
    simp only [DateTime.instant, Option.getD_some]
    omega

theorem Cache.encode_of_put {τ : Type} [TimeScale τ] {c k : Cache τ} {d : Dataset} {ttl now : τ}
    (h : c.put d ttl now = .ok k) : ∃ bytes, d.encode = .ok bytes ∧ c.noWriting = none := by
  unfold put at h
  split at h
  · cases h
  · rename_i bytes hbytes
    unfold set at h
    rcases hw : c.noWriting with _ | reason
    · exact ⟨bytes, hbytes, rfl⟩
    · rw [hw] at h
      cases h

namespace Host

variable {h h' : Host Micros} {i : Nat} {c : Client Micros} {mode : SyncMode Micros} {d : Dataset}

/-- What a synchronisation has brought is stamped with its time, and if it could be written its
document is cached until the time to live is over. -/
theorem Ends.exists_entry (hc : h.client? i = some c)
    (hends : Ends i mode (.ok (some (.ok d))) h h')
    (hput : ∃ k, h.cache.put d (TimeScale.ofSeconds c.settings.cacheTtl) h.clock = .ok k) :
    ∃ t entry, d.syncedAt = some t ∧ TimeScale.ofDateTime t = .ok h.clock ∧ d.patterns ≠ []
      ∧ h'.cache.store.find? Dataset.cacheKey = some entry
      ∧ entry.expires = ⟨h.clock.count + c.ttl⟩ ∧ Dataset.ofBytes entry.value = .ok d := by
  obtain ⟨k, hk⟩ := hput
  obtain ⟨bytes, hbytes, hw⟩ := Cache.encode_of_put hk
  obtain ⟨c', outcome, -, hall⟩ := hends.exists_allOrNothing hc
  rcases hall with ⟨hyields, -, hkept, -⟩ | ⟨hne, -⟩
  · obtain @⟨_, _, _, t, _, -, -, hnow, hpayload⟩ := hyields
    obtain ⟨hstorable, htime⟩ := Micros.storable_of_toDateTime hnow
    obtain ⟨hpatterns, -, hsynced⟩ := Dataset.ofPayload_ok hpayload
    have hd := Dataset.storable_of_ofPayload hpayload hstorable hbytes
    generalize h'.cache = kept at hkept ⊢
    rcases hkept with ⟨hencode, -, hfind, -⟩ | hfailed
    · refine ⟨t, _, hsynced, htime, hpatterns, hfind, rfl, ?_⟩
      obtain rfl := Except.ok.inj (hd.encode_eq.symm.trans hencode)
      exact hd.ofBytes_eq
    · have hout := hfailed bytes hbytes
      simp [hw] at hout
  · exact absurd rfl (hne d)

/-- A client that is built on the cache after a synchronisation starts from what that has brought
until the time to live is over, and from the built-in dataset afterwards. It is due for a
synchronisation exactly when it does not start from what was brought. -/
theorem restart_fresh_iff (hc : h.client? i = some c)
    (hends : Ends i mode (.ok (some (.ok d))) h h')
    (hput : ∃ k, h.cache.put d (TimeScale.ofSeconds c.settings.cacheTtl) h.clock = .ok k)
    (hclock : 0 ≤ h.clock.count) {t : Micros} {cache : Cache Micros}
    (hread : h'.cache.ReadUntil t cache) (hr : cache.noReading = none) {settings : Settings}
    (httl : settings.cacheTtl = c.settings.cacheTtl) :
    ∃ c' cache' notices, Client.build settings cache t = .ok (c', cache', notices)
      ∧ (c'.snapshot.dataset = d ↔ t.count < h.clock.count + c.ttl)
      ∧ (c'.isDue t = true ↔ c'.snapshot.dataset ≠ d)
      ∧ (c'.snapshot.dataset = d ∨ c'.snapshot.dataset = Dataset.bootstrap) := by
  obtain ⟨stamp, entry, hsynced, hstamp, hpatterns, hfind, hexpires, hbytes⟩ :=
    hends.exists_entry hc hput
  have hbuiltIn : Dataset.bootstrap ≠ d := by
    rintro rfl
    cases hsynced
  have hdue : ∀ c' : Client Micros, c'.settings = settings → c'.ttl = c.ttl := by
    rintro c' rfl
    rw [Client.ttl, httl, Client.ttl]
  by_cases hfresh : t.count < h.clock.count + c.ttl
  · have hlater : TimeScale.le entry.expires t = false := by
      rw [hexpires]
      exact decide_eq_false (by simpa using hfresh)
    have hholds : cache.Holds t d := by
      rcases hread.find? hfind with hkept | ⟨-, hexpired⟩
      · exact ⟨entry, hkept, hlater, hbytes, hpatterns⟩
      · rw [hexpires] at hexpired
        exact absurd hfresh (Int.not_lt.2 hexpired)
    obtain ⟨snapshot, cache', notices, rfl, hbuild⟩ :=
      Client.build_of_provides settings hr (.inl hholds)
    rw [hsynced, Option.map_some, Option.getD_some, hstamp] at hbuild
    refine ⟨_, cache', notices, hbuild, by simpa using hfresh, ?_, .inl rfl⟩
    rw [isDue_iff, hdue _ rfl]
    simp only [ne_eq, not_true_eq_false, iff_false, Int.not_le]
    omega
  · have hnone : ∀ d', ¬ cache.Holds t d' := by
      rintro d' ⟨entry', hfound, hlater, -⟩
      rcases hread.find? hfind with hkept | ⟨hgone, -⟩
      · obtain rfl := Option.some.inj (hkept.symm.trans hfound)
        rw [hexpires] at hlater
        exact hfresh (Int.not_le.1 (of_decide_eq_false hlater))
      · rw [hgone] at hfound
        cases hfound
    obtain ⟨snapshot, cache', notices, hsnapshot, hbuild⟩ :=
      Client.build_of_provides settings hr (.inr ⟨hnone, rfl⟩)
    refine ⟨_, cache', notices, hbuild, ?_, ?_, .inr hsnapshot⟩
    · simp only [hsnapshot, hbuiltIn, hfresh]
    · rw [isDue_iff, hdue _ rfl]
      simp only [hsnapshot, ne_eq, hbuiltIn, not_false_eq_true, iff_true]
      change c.ttl ≤ t.count - 0
      omega

/-- A host whose client waits for one pattern. -/
def patternHost : Host Micros :=
  ((answering [{ outcome := .response 200 onePatternBody, held := true }]).act (.sync true)).1

/-- One microsecond before the day is over a restart brings back what was synchronised at its
beginning, and when it is over it does not. -/
theorem restarted_within_a_day : ∃ d h', Ends 0 .plain (.ok (some (.ok d))) patternHost h'
    ∧ (∃ c cache notices, Client.build {} h'.cache ⟨86399999999⟩ = .ok (c, cache, notices)
      ∧ c.snapshot.dataset = d ∧ c.isDue ⟨86399999999⟩ ≠ true)
    ∧ ∃ c cache notices, Client.build {} h'.cache ⟨86400000000⟩ = .ok (c, cache, notices)
      ∧ c.snapshot.dataset ≠ d ∧ c.isDue ⟨86400000000⟩ = true := by
  obtain ⟨c, hc, hsettings⟩ : ∃ c, patternHost.client? 0 = some c
      ∧ c.settings = { apiKey := "key" } := ⟨_, rfl, rfl⟩
  have hheld : patternHost.held = [] ++ [{ client := 0, task := .sync .plain (.call 0),
                                           outcome := .response 200 onePatternBody }] := rfl
  have hbody : Json.ofDocument onePatternBody = .ok onePattern := rfl
  obtain ⟨t, d, ht, hd, hput⟩ : ∃ t d, TimeScale.toDateTime patternHost.clock = .ok t
      ∧ Dataset.ofPayload onePattern t = .ok d
      ∧ ∃ k, patternHost.cache.put d ⟨86400000000⟩ patternHost.clock = .ok k :=
    ⟨_, _, rfl, rfl, _, rfl⟩
  have hend := (endSync_eq_dataset_iff (h := { patternHost with held := [] }) hc .plain
    (.response 200 onePatternBody) d).2 (.mk (by decide) hbody ht hd)
  have hends : Ends 0 .plain (.ok (some (.ok d))) patternHost _ := .landed hheld (Prod.ext rfl hend)
  have httl : c.ttl = 86400000000 := by
    rw [Client.ttl, hsettings]
    rfl
  have hlife : TimeScale.ofSeconds c.settings.cacheTtl = (⟨86400000000⟩ : Micros) := by
    rw [hsettings]
    rfl
  rw [← hlife] at hput
  refine ⟨d, _, hends, ?_, ?_⟩
  · obtain ⟨c', cache, notices, hbuild, hfresh, hdue, -⟩ := restart_fresh_iff hc hends hput
      (by decide) (t := ⟨86399999999⟩) .refl rfl
      (show ({} : Settings).cacheTtl = c.settings.cacheTtl by rw [hsettings])
    have hd' := hfresh.2 (by rw [httl]; decide)
    exact ⟨c', cache, notices, hbuild, hd', fun h => hdue.1 h hd'⟩
  · obtain ⟨c', cache, notices, hbuild, hfresh, hdue, -⟩ := restart_fresh_iff hc hends hput
      (by decide) (t := ⟨86400000000⟩) .refl rfl
      (show ({} : Settings).cacheTtl = c.settings.cacheTtl by rw [hsettings])
    have hd' : c'.snapshot.dataset ≠ d := fun h => absurd (hfresh.1 h) (by rw [httl]; decide)
    exact ⟨c', cache, notices, hbuild, hd', hdue.2 hd'⟩

end Host

end BotSentry
