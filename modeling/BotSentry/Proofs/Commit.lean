import BotSentry.Proofs.Alike
import BotSentry.Proofs.Storage
import BotSentry.Proofs.SyncEnds

/-!
# A synchronisation is all or nothing

However a call for a synchronisation ends, a dataset has come into force and is cached, or the
dataset, the cache and the time of the last synchronisation are as before (`AllOrNothing`). This is
what one end does (`endSync_allOrNothing`). A call that ends at once is such an end around which its
client is locked, one that is held back only takes the lock, and to cancel it only frees the lock.
The endpoint for synchronisations adds that it sets the time.
-/

namespace BotSentry

variable {τ : Type} [TimeScale τ]

/-- What success makes of the time of the last synchronisation. -/
def SyncMode.mark : SyncMode τ → τ → τ
  | .plain, lastSync => lastSync
  | .whenDue now, _ => now

namespace Host

/-- The dataset, the time of the last synchronisation and the cache are as before. -/
structure Unchanged (h h' : Host τ) (c c' : Client τ) : Prop where
  snapshot : c'.snapshot = c.snapshot
  lastSync : c'.lastSync = c.lastSync
  cache : h'.cache = h.cache

/-- Between two states of a host and of one of its clients a synchronisation has ended: with the
dataset that its request brought, in force and cached, and the time set, or with everything
unchanged. -/
inductive AllOrNothing (h h' : Host τ) (c c' : Client τ) (outcome : Outcome) (lastSync : τ) :
    SyncEnd → Prop
  | all {d : Dataset} : outcome.Yields (TimeScale.toDateTime h.clock) d → c'.snapshot.dataset = d →
      h.cache.Kept d (TimeScale.ofSeconds c.settings.cacheTtl) h.clock h'.cache →
      c'.lastSync = lastSync →
      AllOrNothing h h' c c' outcome lastSync (.ok (some (.ok d)))
  | nothing {e : SyncEnd} : (∀ d, e ≠ .ok (some (.ok d))) → Unchanged h h' c c' →
      AllOrNothing h h' c c' outcome lastSync e

section Unchanged

variable {h h₁ h₂ h' : Host τ} {c c₁ c₂ c' : Client τ}

omit [TimeScale τ] in
theorem Unchanged.trans (hu : Unchanged h h₁ c c₁) (hu' : Unchanged h₁ h' c₁ c') :
    Unchanged h h' c c' where
  snapshot := hu'.snapshot.trans hu.snapshot
  lastSync := hu'.lastSync.trans hu.lastSync
  cache := hu'.cache.trans hu.cache

omit [TimeScale τ] in
theorem Alike.unchanged (ha : h.Alike h') (hc : c.Alike c') : Unchanged h h' c c' :=
  ⟨hc.snapshot, hc.lastSync, ha.cache⟩

/-- What happens before and after a synchronisation does not count if it changes nothing. -/
theorem AllOrNothing.of_unchanged {outcome : Outcome} {lastSync : τ} {e : SyncEnd}
    (hall : AllOrNothing h₁ h₂ c₁ c₂ outcome lastSync e) (hclock : h₁.clock = h.clock)
    (hsettings : c₁.settings = c.settings) (hb : Unchanged h h₁ c c₁) (ha : Unchanged h₂ h' c₂ c') :
    AllOrNothing h h' c c' outcome lastSync e := by
  rcases hall with ⟨hy, hd, hk, hl⟩ | ⟨he, hu⟩
  · refine .all ?_ ?_ ?_ ?_
    · rwa [← hclock]
    · rw [ha.snapshot, hd]
    · rwa [ha.cache, ← hclock, ← hb.cache, ← hsettings]
    · rw [ha.lastSync, hl]
  · exact .nothing he ((hb.trans hu).trans ha)

theorem AllOrNothing.unchanged {outcome : Outcome} {lastSync : τ} {e : SyncEnd}
    (hall : AllOrNothing h h' c c' outcome lastSync e) (he : ∀ d, e ≠ .ok (some (.ok d))) :
    Unchanged h h' c c' := by
  rcases hall with ⟨-, -, -, -⟩ | ⟨-, hu⟩
  · exact absurd rfl (he _)
  · exact hu

end Unchanged

section Calls

variable {h : Host τ} {i : Nat} {c : Client τ}

/-! ## One end -/

theorem endSync_allOrNothing (hc : h.client? i = some c) (mode : SyncMode τ) (outcome : Outcome) :
    ∃ c', (h.endSync i mode outcome).1.client? i = some c' ∧ c'.syncing = false
      ∧ AllOrNothing h (h.endSync i mode outcome).1 c c' outcome (mode.mark c.lastSync)
        (h.endSync i mode outcome).2 := by
  unfold endSync
  simp only [hc, Client.endSync]
  rcases hr : outcome.receive (TimeScale.toDateTime h.clock) with x | e | d
  · exact ⟨_, client?_setClient_self hc, rfl, .nothing (by simp) ⟨rfl, rfl, rfl⟩⟩
  · refine ⟨_, client?_setClient_self hc, ?_, .nothing (by simp) ⟨?_, ?_, rfl⟩⟩ <;>
      cases mode <;> rfl
  · have hkept := h.cache.kept_keep d (TimeScale.ofSeconds c.settings.cacheTtl) h.clock
    refine ⟨_, client?_setClient_self hc, ?_,
      .all (Outcome.receive_eq_dataset_iff.1 hr) ?_ hkept ?_⟩ <;> cases mode <;> rfl

theorem endSync_eq_dataset_iff (hc : h.client? i = some c) (mode : SyncMode τ) (outcome : Outcome)
    (d : Dataset) : (h.endSync i mode outcome).2 = .ok (some (.ok d))
      ↔ outcome.Yields (TimeScale.toDateTime h.clock) d := by
  rw [endSync_end hc, ← Outcome.receive_eq_dataset_iff]
  rcases outcome.receive (TimeScale.toDateTime h.clock) with x | r <;> simp [Except.map]

omit [TimeScale τ] in
theorem alike_deliver (h : Host τ) (caller : Caller) (e : SyncEnd) :
    h.Alike (h.deliver caller e) := by
  cases caller with
  | host => exact .refl h
  | call number => exact ⟨rfl, rfl, rfl, rfl, fun hc => ⟨_, hc, .refl _⟩⟩
  | loop =>
    rcases e with x | r
    · exact (Alike.refl h).note _
    · exact .refl h

/-- A request that is let go is at an end, whoever waits for it. -/
theorem resume_allOrNothing (hc : h.client? i = some c) (mode : SyncMode τ) (caller : Caller)
    (outcome : Outcome) :
    ∃ c', (h.resume { client := i, task := .sync mode caller, outcome }).client? i = some c'
      ∧ c'.syncing = false
      ∧ AllOrNothing h (h.resume { client := i, task := .sync mode caller, outcome }) c c' outcome
        (mode.mark c.lastSync) (h.endSync i mode outcome).2 := by
  obtain ⟨c₁, hc₁, hs₁, hall⟩ := endSync_allOrNothing hc mode outcome
  have hd := alike_deliver (h.endSync i mode outcome).1 caller (h.endSync i mode outcome).2
  obtain ⟨c', hc', ha⟩ := hd.client hc₁
  exact ⟨c', hc', ha.syncing.trans hs₁,
    hall.of_unchanged rfl rfl ⟨rfl, rfl, rfl⟩ (hd.unchanged ha)⟩

/-! ## Calls -/

/-- A call that is at an end is all or nothing, and its client is locked as before. -/
theorem callSync_allOrNothing (hc : h.client? i = some c) {mode : SyncMode τ} {caller : Caller}
    {h' : Host τ} {e : SyncEnd} (hcall : h.callSync i mode caller = (h', some e)) :
    ∃ c', h'.client? i = some c' ∧ c'.syncing = c.syncing
      ∧ AllOrNothing h h' c c' h.peer.nextOutcome (mode.mark c.lastSync) e := by
  have hcases := callSync_cases hc mode caller
  rw [hcall] at hcases
  cases hcases with
  | refused | skipped => exact ⟨c, hc, rfl, .nothing (by simp) ⟨rfl, rfl, rfl⟩⟩
  | @requested notices _ ho hr =>
    have hfree := (syncObstacle?_eq_none_iff.1 ho).2
    have hb := client?_begun (show (h.note notices).client? i = some c from hc)
    cases hr with
    | answered =>
      obtain ⟨c', hc', hs, hall⟩ := endSync_allOrNothing hb mode (h.note notices).peer.nextOutcome
      exact ⟨c', hc', hs.trans hfree.symm,
        hall.of_unchanged rfl rfl ⟨rfl, rfl, rfl⟩ ⟨rfl, rfl, rfl⟩⟩
    | givenUp =>
      exact ⟨c, client?_setClient_self hb, rfl, .nothing (by simp) ⟨rfl, rfl, rfl⟩⟩

/-- A call that is held back has taken the lock, and no more. -/
theorem callSync_held (hc : h.client? i = some c) {mode : SyncMode τ} {caller : Caller}
    {h' : Host τ} (hcall : h.callSync i mode caller = (h', none)) :
    caller ≠ .host ∧ c.syncing = false
      ∧ ∃ c', h'.client? i = some c' ∧ c'.syncing = true ∧ Unchanged h h' c c'
        ∧ h'.held = h.held ++ [{ client := i, task := .sync mode caller,
                                 outcome := h.peer.nextOutcome }] := by
  have hcases := callSync_cases hc mode caller
  rw [hcall] at hcases
  cases hcases with
  | @requested notices _ ho hr =>
    have hfree := (syncObstacle?_eq_none_iff.1 ho).2
    have hb := client?_begun (show (h.note notices).client? i = some c from hc)
    cases hr with
    | held _ hcaller => exact ⟨hcaller, hfree, _, hb, rfl, ⟨rfl, rfl, rfl⟩, rfl⟩

/-! ## Cancelling -/

omit [TimeScale τ] in
theorem client?_free (h : Host τ) (x : Held τ) (i : Nat) : (h.free x).client? i
    = (h.client? i).map fun c => if x.client = i then { c with syncing := false } else c := by
  unfold free
  split
  · rename_i hx
    split_ifs with hi
    · rw [← hi, hx]
      rfl
    · simp
  · rename_i c hx
    rw [client?_setClient]
    split_ifs with hi hlt
    · rw [← hi, hx]
      rfl
    · exact absurd (client?_lt hx) hlt
    · simp

omit [TimeScale τ] in
theorem free_cache (h : Host τ) (x : Held τ) : (h.free x).cache = h.cache := by
  unfold free
  split <;> rfl

omit [TimeScale τ] in
/-- To free a client again and again changes nothing but its lock, and that is free if it was so or
if one of the requests was its own. -/
theorem foldl_free : ∀ (l : List (Held τ)) {h : Host τ} {c : Client τ}, h.client? i = some c →
    ∃ c', (l.foldl free h).client? i = some c' ∧ Unchanged h (l.foldl free h) c c'
      ∧ (c.syncing = false ∨ (∃ x ∈ l, x.client = i) → c'.syncing = false)
  | [], h, c, hc => ⟨c, hc, ⟨rfl, rfl, rfl⟩, by simp⟩
  | x :: l, h, c, hc => by
    have hx : (h.free x).client? i
        = some (if x.client = i then { c with syncing := false } else c) := by
      rw [client?_free, hc]
      rfl
    obtain ⟨c', hc', hu, hfree⟩ := foldl_free l hx
    refine ⟨c', hc', ⟨?_, ?_, hu.cache.trans (h.free_cache x)⟩, fun hor => hfree ?_⟩
    · rw [hu.snapshot]
      split_ifs <;> rfl
    · rw [hu.lastSync]
      split_ifs <;> rfl
    · split_ifs with hi
      · exact .inl rfl
      · rcases hor with hs | ⟨y, hy, hyi⟩
        · exact .inl hs
        · rcases List.mem_cons.1 hy with rfl | hy
          · exact absurd hyi hi
          · exact .inr ⟨y, hy, hyi⟩

omit [TimeScale τ] in
/-- To cancel synchronisations frees the locks that they have taken, and no more. -/
theorem cancel_unchanged (hc : h.client? i = some c) (whose : Caller → Bool) :
    ∃ c', (h.cancel whose).client? i = some c' ∧ Unchanged h (h.cancel whose) c c'
      ∧ ∀ mode caller outcome, { client := i, task := .sync mode caller, outcome } ∈ h.held →
        whose caller = true → c'.syncing = false := by
  have hc₀ : { h with held := h.held.filter (!·.isSyncFor whose) }.client? i = some c := hc
  obtain ⟨c', hc', hu, hfree⟩ := foldl_free (h.held.filter (·.isSyncFor whose)) hc₀
  refine ⟨c', hc', ⟨hu.snapshot, hu.lastSync, hu.cache⟩, fun mode caller outcome hm hw => ?_⟩
  exact hfree (.inr ⟨_, List.mem_filter.2 ⟨hm, hw⟩, rfl⟩)

/-! ## The endpoint -/

theorem endSync_clock (h : Host τ) (i : Nat) (mode : SyncMode τ) (outcome : Outcome) :
    (h.endSync i mode outcome).1.clock = h.clock := by
  unfold endSync
  split
  · rfl
  · dsimp only
    split <;> rfl

theorem callSync_clock (hc : h.client? i = some c) (mode : SyncMode τ) (caller : Caller) :
    (h.callSync i mode caller).1.clock = h.clock := by
  have hcases := callSync_cases hc mode caller
  generalize h.callSync i mode caller = result at hcases ⊢
  cases hcases with
  | refused | skipped => rfl
  | requested _ hr =>
    cases hr with
    | answered => exact endSync_clock ..
    | givenUp => rfl
    | held => rfl

/-- Whoever waits for a call comes to its end. -/
theorem callSync_host (hc : h.client? i = some c) (mode : SyncMode τ) :
    h.callSync i mode .host = ((h.sync i mode).1, some (h.sync i mode).2) := by
  rcases hcall : h.callSync i mode .host with ⟨h', _ | e⟩
  · exact absurd rfl (callSync_held hc hcall).1
  · simp only [sync, hcall, Option.getD_some]

theorem adminSync_allOrNothing (hc : h.client? i = some c) :
    ∃ c', (h.adminSync i).1.client? i = some c' ∧ c'.syncing = c.syncing
      ∧ AllOrNothing h (h.adminSync i).1 c c' h.peer.nextOutcome h.clock (h.sync i .plain).2 := by
  obtain ⟨c₁, hc₁, hs₁, hall⟩ := callSync_allOrNothing hc (callSync_host hc .plain)
  have hclock := callSync_clock hc .plain .host
  rw [callSync_host hc] at hclock
  unfold adminSync
  rcases hsync : h.sync i .plain with ⟨h₁, x | _ | e | d⟩ <;> rw [hsync] at hc₁ hall hclock
  · exact ⟨c₁, hc₁, hs₁, .nothing (by simp) (hall.unchanged (by simp))⟩
  · exact ⟨c₁, hc₁, hs₁, .nothing (by simp) (hall.unchanged (by simp))⟩
  · have hne : ∀ d, (.ok (some (.error e)) : SyncEnd) ≠ .ok (some (.ok d)) := by simp
    have hu := hall.unchanged hne
    exact ⟨c₁, hc₁, hs₁, .nothing hne ⟨hu.snapshot, hu.lastSync, hu.cache⟩⟩
  · simp only [hc₁, client?_note]
    refine ⟨_, client?_setClient_self hc₁, hs₁, ?_⟩
    rcases hall with ⟨hy, hd, hk, -⟩ | ⟨hne, -⟩
    · exact .all hy hd hk hclock
    · exact absurd rfl (hne d)

/-- A request changes nothing, or it is an authorised one for a synchronisation. -/
theorem serveOwn_allOrNothing (hc : h.client? i = some c) (r : Request) :
    ∃ c', (h.serveOwn i r).1.client? i = some c' ∧ c'.syncing = c.syncing
      ∧ (Unchanged h (h.serveOwn i r).1 c c' ∨ MaySync c r ∧ ∃ h₁, h.Alike h₁
        ∧ AllOrNothing h (h.serveOwn i r).1 c c' h.peer.nextOutcome h.clock
          (h₁.sync i .plain).2) := by
  rw [serveOwn_host]
  rcases alike_serve h i r (route i r) with ha | ⟨h₁, ha, hb⟩
  · obtain ⟨c', hc', hac⟩ := ha.client hc
    exact ⟨c', hc', hac.syncing, .inl (ha.unchanged hac)⟩
  · obtain ⟨c₁, hc₁, hac⟩ := ha.client hc
    rcases route_cases h₁ i r with heq | ⟨c₀, hc₀, hmay, heq⟩ <;> rw [heq] at hb
    · obtain ⟨c', hc', hac'⟩ := (ha.trans hb).client hc
      exact ⟨c', hc', hac'.syncing, .inl ((ha.trans hb).unchanged hac')⟩
    · rw [hc₁, Option.some.injEq] at hc₀
      subst hc₀
      obtain ⟨c₂, hc₂, hs₂, hall⟩ := adminSync_allOrNothing hc₁
      obtain ⟨c', hc', hbc⟩ := hb.client hc₂
      rw [ha.peer, ha.clock] at hall
      have hs := (hbc.syncing.trans hs₂).trans hac.syncing
      refine ⟨c', hc', hs, .inr ⟨hmay.of_alike hac, h₁, ha, ?_⟩⟩
      exact hall.of_unchanged ha.clock hac.settings (ha.unchanged hac) (hb.unchanged hbc)

/-- A call that has an end is all or nothing, and its client is locked as before. A call that has
none yet has taken the lock and changed nothing; when its request is let go it is all or nothing
too, with a dataset where the request has brought one, and when it is cancelled nothing changes,
and either way the lock is free. With success, a call for a synchronisation that is due sets the
time to its own, the endpoint sets it to the clock, and a plain call leaves it alone. -/
theorem sync_all_or_nothing (hc : h.client? i = some c) :
    (∀ mode caller h' e, h.callSync i mode caller = (h', some e) →
        ∃ c', h'.client? i = some c' ∧ c'.syncing = c.syncing
          ∧ AllOrNothing h h' c c' h.peer.nextOutcome (mode.mark c.lastSync) e)
      ∧ (∀ mode caller h', h.callSync i mode caller = (h', none) →
        c.syncing = false ∧ ∃ c', h'.client? i = some c' ∧ c'.syncing = true ∧ Unchanged h h' c c'
          ∧ h'.held = h.held ++ [{ client := i, task := .sync mode caller,
                                   outcome := h.peer.nextOutcome }])
      ∧ (∀ mode caller outcome,
        (∃ c', (h.resume { client := i, task := .sync mode caller, outcome }).client? i = some c'
          ∧ c'.syncing = false
          ∧ AllOrNothing h (h.resume { client := i, task := .sync mode caller, outcome }) c c'
            outcome (mode.mark c.lastSync) (h.endSync i mode outcome).2)
        ∧ ∀ d, (h.endSync i mode outcome).2 = .ok (some (.ok d))
          ↔ outcome.Yields (TimeScale.toDateTime h.clock) d)
      ∧ (∀ whose, ∃ c', (h.cancel whose).client? i = some c' ∧ Unchanged h (h.cancel whose) c c'
        ∧ ∀ mode caller outcome,
          { client := i, task := .sync mode caller, outcome } ∈ h.held → whose caller = true →
            c'.syncing = false)
      ∧ (∃ c', (h.adminSync i).1.client? i = some c' ∧ c'.syncing = c.syncing
        ∧ AllOrNothing h (h.adminSync i).1 c c' h.peer.nextOutcome h.clock (h.sync i .plain).2)
      ∧ ∀ r, ∃ c', (h.serveOwn i r).1.client? i = some c' ∧ c'.syncing = c.syncing
        ∧ (Unchanged h (h.serveOwn i r).1 c c' ∨ MaySync c r ∧ ∃ h₁, h.Alike h₁
          ∧ AllOrNothing h (h.serveOwn i r).1 c c' h.peer.nextOutcome h.clock
            (h₁.sync i .plain).2) :=
  ⟨fun _ _ _ _ hcall => callSync_allOrNothing hc hcall,
    fun _ _ _ hcall => (callSync_held hc hcall).2,
    fun mode caller outcome => ⟨resume_allOrNothing hc mode caller outcome,
      endSync_eq_dataset_iff hc mode outcome⟩,
    cancel_unchanged hc, adminSync_allOrNothing hc, serveOwn_allOrNothing hc⟩

end Calls

/-- The document of a response with one pattern. -/
def onePattern : Json := .mkObj [("patterns", .arr [.mkObj [("pattern", .ofString "a")]])]

/-- The body of a response with one pattern. -/
def onePatternBody : Bytes :=
  [123, 34, 112, 97, 116, 116, 101, 114, 110, 115, 34, 58, 91, 123, 34, 112, 97, 116, 116, 101, 114,
    110, 34, 58, 34, 97, 34, 125, 93, 125]

/-- A request that is let go with one pattern brings a dataset into force. -/
theorem resume_one_pattern :
    (answering []).client? 0
        = some { settings := { apiKey := "key" }, snapshot := { dataset := .bootstrap },
                 lastSync := ⟨0⟩ }
      ∧ ∃ d c', d.patterns.length = 1
        ∧ ((answering []).resume { client := 0, task := .sync .plain (.call 0),
                                   outcome := .response 200 onePatternBody }).client? 0 = some c'
        ∧ c'.snapshot.dataset = d ∧ c'.syncing = false := by
  have hbody : Json.ofDocument onePatternBody = .ok onePattern := rfl
  obtain ⟨t, ht⟩ : ∃ t, TimeScale.toDateTime (answering []).clock = .ok t := ⟨_, rfl⟩
  obtain ⟨d, hd, hlength⟩ : ∃ d, Dataset.ofPayload onePattern t = .ok d ∧ d.patterns.length = 1 :=
    ⟨_, rfl, rfl⟩
  obtain ⟨-, -, hlet, -⟩ :=
    sync_all_or_nothing (show (answering []).client? 0 = some _ from rfl)
  obtain ⟨⟨c', hc', hs, hall⟩, hend⟩ := hlet .plain (.call 0) (.response 200 onePatternBody)
  rw [(hend d).2 (.mk (by decide) hbody ht hd)] at hall
  refine ⟨rfl, d, c', hlength, hc', ?_, hs⟩
  rcases hall with ⟨-, hd', -, -⟩ | ⟨hne, -⟩
  · exact hd'
  · exact absurd rfl (hne d)

end Host

end BotSentry
