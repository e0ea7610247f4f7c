import BotSentry.Proofs.Moves

/-!
# The pace of synchronisation

A client is asked for synchronisations at any time, some of which wait for their answers while
others are asked for, and the clock does not go back. Every move keeps the time of the last
synchronisation out of the future and never sets it back, and what waits for an answer because it
was due was due for the time that is there still (`Timely`, `Timely.move`).

So that time decides alone about the next request (`paces_of_moves`): after a success nothing is
sent because it is due before the time to live is over, and a failure delays nothing.
-/

namespace BotSentry

variable {τ : Type} [TimeScale τ]

/-- The time to live of a client's dataset, in microseconds. -/
def Client.ttl (c : Client Micros) : Int := c.settings.cacheTtl * DateTime.microsPerSecond

theorem Client.ttl_congr {c c' : Client Micros} (hs : c'.settings = c.settings) :
    c'.ttl = c.ttl := by rw [ttl, hs, ttl]

namespace Host

/-! ## The end of a synchronisation -/

section Ends

variable {h h' : Host τ} {i : Nat} {c c' : Client τ} {mode : SyncMode τ} {e : SyncEnd}

theorem exists_endSync_settings (hc : h.client? i = some c) (mode : SyncMode τ)
    (outcome : Outcome) : ∃ c', (h.endSync i mode outcome).1.client? i = some c'
      ∧ c'.settings = c.settings := by
  obtain ⟨cache, notices, c', he, hs, -⟩ := exists_endSync_eq hc mode outcome
  have hc' : ({ h with cache }.note notices).client? i = some c := hc
  exact ⟨c', by rw [he, client?_setClient_self hc'], hs⟩

theorem exists_callSync_settings (hc : h.client? i = some c) (mode : SyncMode τ)
    (caller : Caller) : ∃ c', (h.callSync i mode caller).1.client? i = some c'
      ∧ c'.settings = c.settings := by
  have hcases := callSync_cases hc mode caller
  generalize h.callSync i mode caller = result at hcases ⊢
  cases hcases with
  | refused | skipped => exact ⟨c, hc, rfl⟩
  | @requested notices _ _ hr =>
    have hb := client?_begun (show (h.note notices).client? i = some c from hc)
    cases hr with
    | answered => exact exists_endSync_settings hb mode _
    | givenUp => exact ⟨c, client?_setClient_self hb, rfl⟩
    | held => exact ⟨_, hb, rfl⟩

/-- What the end of a synchronisation leaves behind: with success the time is set and the client is
free, and without it the time is as before. -/
structure Ended (i : Nat) (mode : SyncMode τ) (e : SyncEnd) (h h' : Host τ) (c c' : Client τ) :
    Prop where
  client : h'.client? i = some c'
  settings : c'.settings = c.settings
  clock : h'.clock = h.clock
  inFlight : h'.inFlight i ⊆ h.inFlight i
  flight : (h.inFlight i).length = c.syncing.toNat → (h'.inFlight i).length = c'.syncing.toNat
  lastSync : (∃ d, e = .ok (some (.ok d))) ∧ c'.lastSync = mode.mark c.lastSync ∧ c'.syncing = false
    ∨ (∀ d, e ≠ .ok (some (.ok d))) ∧ c'.lastSync = c.lastSync

theorem AllOrNothing.lastSync {outcome : Outcome} {lastSync : τ}
    (hall : AllOrNothing h h' c c' outcome lastSync e) :
    (∃ d, e = .ok (some (.ok d))) ∧ c'.lastSync = lastSync
      ∨ (∀ d, e ≠ .ok (some (.ok d))) ∧ c'.lastSync = c.lastSync := by
  rcases hall with ⟨-, -, -, hl⟩ | ⟨hne, hu⟩
  · exact .inl ⟨⟨_, rfl⟩, hl⟩
  · exact .inr ⟨hne, hu.lastSync⟩

/-- A call that brings a dataset at once finds its client free. -/
theorem free_of_callSync {caller : Caller} {d : Dataset} (hc : h.client? i = some c)
    (hcall : h.callSync i mode caller = (h', some (.ok (some (.ok d))))) : c.syncing = false := by
  have hcases := callSync_cases hc mode caller
  rw [hcall] at hcases
  cases hcases with
  | requested ho => exact (syncObstacle?_eq_none_iff.1 ho).2

omit [TimeScale τ] in
theorem inFlight_without_subset {before after : List (Held τ)} {x : Held τ}
    (hx : h.held = before ++ x :: after) (i : Nat) :
    { h with held := before ++ after }.inFlight i ⊆ h.inFlight i := by
  intro y hy
  obtain ⟨hmem, hof⟩ := List.mem_filter.1 hy
  refine List.mem_filter.2 ⟨?_, hof⟩
  rw [hx, List.mem_append, List.mem_cons]
  rcases List.mem_append.1 hmem with hmem | hmem
  · exact .inl hmem
  · exact .inr (.inr hmem)

/-- A synchronisation that ends at once leaves the flight as it was, and one that is let go lands.
-/
theorem Ends.exists_ended (hc : h.client? i = some c) (hends : Ends i mode e h h') :
    ∃ c', Ended i mode e h h' c c' := by
  rcases hends with ⟨-, hcall⟩ | ⟨hx, hend⟩
  · rename_i caller
    obtain ⟨c', hc', hs, hall⟩ := callSync_allOrNothing hc hcall
    obtain ⟨c₁, hc₁, hsettings⟩ := exists_callSync_settings hc mode caller
    have hclock := callSync_clock hc mode caller
    rw [hcall] at hc₁ hclock
    obtain rfl := Option.some.inj (hc'.symm.trans hc₁)
    have hin := (callSync_sameFlight hc hcall).inFlight i
    refine ⟨c', hc', hsettings, hclock, by simp [hin], fun hf => by rw [hin, hs, hf], ?_⟩
    rcases hall.lastSync with ⟨⟨d, rfl⟩, hl⟩ | hfailed
    · exact .inl ⟨⟨d, rfl⟩, hl, hs.trans (free_of_callSync hc hcall)⟩
    · exact .inr hfailed
  · rename_i before after caller outcome
    have hwithout : { h with held := before ++ after }.client? i = some c := hc
    obtain ⟨c', hc', hs, hall⟩ := endSync_allOrNothing hwithout mode outcome
    obtain ⟨c₁, hc₁, hsettings⟩ := exists_endSync_settings hwithout mode outcome
    have hclock := endSync_clock { h with held := before ++ after } i mode outcome
    have hheld := endSync_held { h with held := before ++ after } i mode outcome
    rw [hend] at hc' hc₁ hall hclock hheld
    obtain rfl := Option.some.inj (hc'.symm.trans hc₁)
    have hin : h'.inFlight i = { h with held := before ++ after }.inFlight i := by
      rw [inFlight, hheld, inFlight]
    have hlength := length_inFlight_without_sync hx rfl i
    rw [if_pos rfl, ← hin] at hlength
    refine ⟨c', hc', hsettings, hclock, ?_, fun hf => ?_, ?_⟩
    · rw [hin]
      exact inFlight_without_subset hx i
    · have hle := Bool.toNat_le c.syncing
      rw [hs, Bool.toNat_false]
      omega
    · rcases hall.lastSync with ⟨hd, hl⟩ | hfailed
      · exact .inl ⟨hd, hl, hs⟩
      · exact .inr hfailed

end Ends

/-! ## Time -/

section Timely

variable {h h' : Host Micros} {i : Nat} {c c' : Client Micros}

/-- The time of a client's last synchronisation is not in the future, and a request that it waits
for because it was due was due for that time. -/
structure Timely (i : Nat) (h : Host Micros) (c : Client Micros) : Prop where
  client : h.client? i = some c
  past : c.lastSync.count ≤ h.clock.count
  flight : (h.inFlight i).length = c.syncing.toNat
  asked : ∀ x ∈ h.inFlight i, ∀ t caller, x.task = .sync (.whenDue t) caller →
    c.lastSync.count ≤ t.count ∧ t.count ≤ h.clock.count ∧ c.settings.autoSync = true
      ∧ c.settings.isConfigured = true ∧ c.ttl ≤ t.count - c.lastSync.count

/-- A client is timely still, with its settings, and its time has not been set back. -/
def StaysTimely (i : Nat) (h' : Host Micros) (c : Client Micros) : Prop :=
  ∃ c', Timely i h' c' ∧ c'.settings = c.settings ∧ c.lastSync.count ≤ c'.lastSync.count

theorem StaysTimely.trans {h'' : Host Micros} (hs : StaysTimely i h' c)
    (hnext : ∀ c', Timely i h' c' → StaysTimely i h'' c') : StaysTimely i h'' c := by
  obtain ⟨c', ht, hset, hle⟩ := hs
  obtain ⟨c'', ht', hset', hle'⟩ := hnext c' ht
  exact ⟨c'', ht', hset'.trans hset, Int.le_trans hle hle'⟩

theorem isDue_iff (c : Client Micros) (now : Micros) :
    c.isDue now = true ↔ c.ttl ≤ now.count - c.lastSync.count := decide_eq_true_iff

/-- What a client wants of a call that is for a synchronisation if that is due. -/
theorem wantsSync_iff (c : Client Micros) (now : Micros) : c.wantsSync now = true
    ↔ c.settings.autoSync = true ∧ c.settings.isConfigured = true
      ∧ c.ttl ≤ now.count - c.lastSync.count ∧ c.syncing = false := by
  simp only [Client.wantsSync, Bool.and_eq_true, Bool.not_eq_true', isDue_iff, and_assoc]

theorem callSync_of_not_wantsSync (hc : h.client? i = some c) {t : Micros}
    (hw : ¬ c.wantsSync t = true) (caller : Caller) :
    h.callSync i (.whenDue t) caller = (h, some (.ok none)) := by
  simp only [callSync, hc, hw, Bool.false_eq_true, ↓reduceIte]

/-- A client is free as long as nothing is in flight. -/
theorem Timely.inFlight_eq_nil_iff (ht : Timely i h c) :
    h.inFlight i = [] ↔ c.syncing = false := by
  rw [← List.length_eq_zero_iff, ht.flight]
  cases c.syncing <;> simp

omit [TimeScale τ] in
theorem mem_inFlight {h : Host τ} {before after : List (Held τ)} {mode : SyncMode τ}
    {caller : Caller} {outcome : Outcome}
    (hx : h.held = before ++ { client := i, task := .sync mode caller, outcome } :: after) :
    { client := i, task := .sync mode caller, outcome } ∈ h.inFlight i := by
  simp [inFlight, hx, Held.isSyncOf, Task.isEvent]

/-- Nothing is in flight when the request that a client waits for is gone. -/
theorem Timely.inFlight_without (ht : Timely i h c) {before after : List (Held Micros)}
    {mode : SyncMode Micros} {caller : Caller} {outcome : Outcome}
    (hx : h.held = before ++ { client := i, task := .sync mode caller, outcome } :: after) :
    { h with held := before ++ after }.inFlight i = [] := by
  have hlength := length_inFlight_without_sync hx rfl i
  have hle := Bool.toNat_le c.syncing
  rw [ht.flight, if_pos rfl] at hlength
  exact List.eq_nil_of_length_eq_zero (by omega)

theorem Timely.aside (ht : Timely i h c) (ha : Aside i h h') : StaysTimely i h' c := by
  obtain ⟨c', hc', hsettings, hlast, hs⟩ := ha.client ht.client
  refine ⟨c', ⟨hc', ?_, ?_, fun x hx t caller htask => ?_⟩, hsettings, Int.le_of_eq (by rw [hlast])⟩
  · rw [hlast]
    exact Int.le_trans ht.past ha.clock
  · rw [ha.inFlight, hs, ht.flight]
  · rw [ha.inFlight] at hx
    obtain ⟨hlt, hle, hrest⟩ := ht.asked x hx t caller htask
    rw [hsettings, hlast, Client.ttl_congr hsettings]
    exact ⟨hlt, Int.le_trans hle ha.clock, hrest⟩

/-- A call that has to wait is the only one that does, and if it is for a synchronisation that is
due, it is so now. -/
theorem Timely.begun (ht : Timely i h c) {mode : SyncMode Micros} {caller : Caller}
    (hat : mode.IsAt h.clock) (hcall : h.callSync i mode caller = (h', none)) :
    StaysTimely i h' c := by
  obtain ⟨-, hfree, c', hc', hs, hu, hheld⟩ := callSync_held ht.client hcall
  obtain ⟨c₁, hc₁, hsettings⟩ := exists_callSync_settings ht.client mode caller
  have hclock := callSync_clock ht.client mode caller
  rw [hcall] at hc₁ hclock
  obtain rfl := Option.some.inj (hc'.symm.trans hc₁)
  have hone : h'.inFlight i
      = [{ client := i, task := .sync mode caller, outcome := h.peer.nextOutcome }] := by
    have hnil : h.held.filter (·.isSyncOf i) = [] := ht.inFlight_eq_nil_iff.2 hfree
    rw [inFlight, hheld, List.filter_append, hnil]
    simp [Held.isSyncOf, Task.isEvent]
  refine ⟨c', ⟨hc', ?_, by rw [hone, hs]; rfl, fun x hx t caller' htask => ?_⟩, hsettings,
    Int.le_of_eq (by rw [hu.lastSync])⟩
  · rw [hu.lastSync, hclock]
    exact ht.past
  · rw [hone, List.mem_singleton] at hx
    subst hx
    obtain ⟨rfl, -⟩ := Task.sync.inj htask
    obtain rfl : t = h.clock := hat
    have hw : c.wantsSync h.clock = true := by
      by_contra hw
      rw [callSync_of_not_wantsSync ht.client hw] at hcall
      simp at hcall
    obtain ⟨hauto, hkey, hdue, -⟩ := (wantsSync_iff c _).1 hw
    rw [hu.lastSync, hclock, hsettings, Client.ttl_congr hsettings]
    exact ⟨ht.past, Int.le_refl _, hauto, hkey, hdue⟩

/-- A synchronisation that was due sets a time between the last one and the present. -/
theorem Timely.mark_le (ht : Timely i h c) {mode : SyncMode Micros} {e : SyncEnd}
    (hends : Ends i mode e h h') : c.lastSync.count ≤ (mode.mark c.lastSync).count
      ∧ (mode.mark c.lastSync).count ≤ h.clock.count := by
  cases mode with
  | plain => exact ⟨Int.le_refl _, ht.past⟩
  | whenDue t =>
    rcases hends with ⟨hat, -⟩ | ⟨hx, -⟩
    · obtain rfl : t = h.clock := hat
      exact ⟨ht.past, Int.le_refl _⟩
    · obtain ⟨hlt, hle, -⟩ := ht.asked _ (mem_inFlight hx) t _ rfl
      exact ⟨hlt, hle⟩

theorem Timely.ended (ht : Timely i h c) {mode : SyncMode Micros} {e : SyncEnd}
    (hends : Ends i mode e h h') : ∃ c', Timely i h' c' ∧ Ended i mode e h h' c c'
      ∧ c.lastSync.count ≤ c'.lastSync.count := by
  obtain ⟨c', he⟩ := hends.exists_ended ht.client
  obtain ⟨hlow, hhigh⟩ := ht.mark_le hends
  have hflight := he.flight ht.flight
  rcases he.lastSync with ⟨-, hl, hs⟩ | ⟨-, hl⟩
  · refine ⟨c', ⟨he.client, ?_, hflight, fun x hx => ?_⟩, he, ?_⟩
    · rwa [hl, he.clock]
    · rw [hs, Bool.toNat_false, List.length_eq_zero_iff] at hflight
      rw [hflight] at hx
      cases hx
    · rwa [hl]
  · refine ⟨c', ⟨he.client, ?_, hflight, fun x hx t caller htask => ?_⟩, he, ?_⟩
    · rw [hl, he.clock]
      exact ht.past
    · have hasked := ht.asked x (he.inFlight hx) t caller htask
      rwa [hl, he.clock, he.settings, Client.ttl_congr he.settings]
    · exact Int.le_of_eq (by rw [hl])

/-- With success the endpoint sets the time to the present, and nothing is in flight then. -/
theorem Timely.answered (ht : Timely i h c) {d : Dataset}
    (hends : Ends i .plain (.ok (some (.ok d))) h h') : ∃ c',
      Timely i (h'.answered i (.ok (some (.ok d)))) c' ∧ c'.settings = c.settings
        ∧ c'.lastSync = h.clock := by
  obtain ⟨c', ht', he, -⟩ := ht.ended hends
  have hs : c'.syncing = false := by
    rcases he.lastSync with ⟨-, -, hs⟩ | ⟨hne, -⟩
    · exact hs
    · exact absurd rfl (hne d)
  have hnil := ht'.inFlight_eq_nil_iff.2 hs
  have hset : h'.answered i (.ok (some (.ok d)))
      = h'.setClient i { c' with lastSync := h'.clock } := by
    simp only [Host.answered, ht'.client]
  rw [hset]
  refine ⟨{ c' with lastSync := h'.clock }, ⟨client?_setClient_self ht'.client, Int.le_refl _,
    ht'.flight, fun x hx => ?_⟩, he.settings, he.clock⟩
  rw [show (h'.setClient i _).inFlight i = h'.inFlight i from rfl, hnil] at hx
  cases hx

theorem Timely.endpoint (ht : Timely i h c) {e : SyncEnd} (hends : Ends i .plain e h h') :
    StaysTimely i (h'.answered i e) c := by
  obtain ⟨c₁, ht₁, he, hle⟩ := ht.ended hends
  rcases e with x | _ | x | d
  · exact ⟨c₁, ht₁, he.settings, hle⟩
  · exact ⟨c₁, ht₁, he.settings, hle⟩
  · exact ⟨c₁, ht₁, he.settings, hle⟩
  · obtain ⟨c', ht', hsettings, hl⟩ := ht.answered hends
    refine ⟨c', ht', hsettings, ?_⟩
    rw [hl]
    exact ht.past

theorem Timely.cancelled (ht : Timely i h c) {before after : List (Held Micros)}
    {x : Held Micros} (hx : h.held = before ++ x :: after) (hsync : x.isSyncOf i = true) :
    StaysTimely i ({ h with held := before ++ after }.free x) c := by
  obtain ⟨j, task, outcome⟩ := x
  rcases task with worker | ⟨mode, caller⟩
  · simp [Held.isSyncOf, Task.isEvent] at hsync
  · obtain rfl : j = i := by simpa [Held.isSyncOf, Task.isEvent] using hsync
    have hnil := ht.inFlight_without hx
    have hc₀ : { h with held := before ++ after }.client? j = some c := ht.client
    have hc' := client?_free { h with held := before ++ after }
      { client := j, task := .sync mode caller, outcome } j
    rw [hc₀, Option.map_some, if_pos rfl] at hc'
    have hin : ({ h with held := before ++ after }.free
        { client := j, task := .sync mode caller, outcome }).inFlight j = [] := by
      rw [inFlight, free_held, ← hnil, inFlight]
    have hclock : ({ h with held := before ++ after }.free
        { client := j, task := .sync mode caller, outcome }).clock = h.clock := by
      unfold free
      split <;> rfl
    refine ⟨_, ⟨hc', ?_, by rw [hin]; rfl, fun y hy => ?_⟩, rfl, Int.le_refl _⟩
    · rw [hclock]
      exact ht.past
    · rw [hin] at hy
      cases hy

theorem Timely.move (ht : Timely i h c) (hm : Move i h h') : StaysTimely i h' c := by
  cases hm with
  | aside ha => exact ht.aside ha
  | begun hat hcall => exact ht.begun hat hcall
  | ended hends =>
    obtain ⟨c', ht', he, hle⟩ := ht.ended hends
    exact ⟨c', ht', he.settings, hle⟩
  | endpoint hends => exact ht.endpoint hends
  | cancelled hx hsync => exact ht.cancelled hx hsync

theorem Timely.moves (ht : Timely i h c) (hm : Moves i h h') : StaysTimely i h' c := by
  induction hm with
  | refl => exact ⟨c, ht, rfl, Int.le_refl _⟩
  | tail _ hmove ih => exact ih.trans fun c' ht' => ht'.move hmove

/-! ## Requests -/

/-- A call for a synchronisation if that is due now sends a request. -/
def Sends (i : Nat) (h : Host Micros) (caller : Caller) : Prop :=
  (h.callSync i (.whenDue h.clock) caller).1.peer.seen ≠ h.peer.seen

/-- A request is sent if synchronisation is automatic, there is a key, nothing is in flight and the
time to live is over, and otherwise the call is skipped. -/
theorem Timely.sends_iff (ht : Timely i h c) (caller : Caller) : Sends i h caller
    ↔ c.settings.autoSync = true ∧ c.settings.isConfigured = true ∧ h.inFlight i = []
      ∧ c.ttl ≤ h.clock.count - c.lastSync.count := by
  rw [ht.inFlight_eq_nil_iff, and_comm (a := c.syncing = false), ← wantsSync_iff]
  constructor
  · intro hsends
    by_contra hw
    rw [Sends, callSync_of_not_wantsSync ht.client hw] at hsends
    exact hsends rfl
  · intro hw
    obtain ⟨hauto, hkey, hdue, hs⟩ := (wantsSync_iff c _).1 hw
    rw [Sends, (takesSync ht.client hs).due hkey hauto _ ((isDue_iff c _).2 hdue)]
    simp

/-- A call sends one request for patterns, or nothing changes. -/
theorem Timely.sends_or (ht : Timely i h c) (caller : Caller) :
    (h.callSync i (.whenDue h.clock) caller).1.peer.seen = h.peer.seen ++ [c.patternsRequest]
      ∨ h.callSync i (.whenDue h.clock) caller = (h, some (.ok none)) := by
  by_cases hw : c.wantsSync h.clock = true
  · obtain ⟨hauto, hkey, hdue, hs⟩ := (wantsSync_iff c _).1 hw
    exact .inl ((takesSync ht.client hs).due hkey hauto _ ((isDue_iff c _).2 hdue) caller)
  · exact .inr (callSync_of_not_wantsSync ht.client hw caller)

/-- What is sent is sent when the time to live is over, counted from a time that the last one is not
before. -/
theorem Timely.le_of_sends (ht : Timely i h c) {caller : Caller} (hsends : Sends i h caller)
    {ttl t : Int} (httl : c.ttl = ttl) (ht₀ : t ≤ c.lastSync.count) : t + ttl ≤ h.clock.count := by
  obtain ⟨-, -, -, hle⟩ := (ht.sends_iff caller).1 hsends
  omega

/-- A synchronisation that was due and has failed is tried again at once. -/
theorem Timely.retried (ht : Timely i h c) {t : Micros} {e : SyncEnd}
    (hends : Ends i (.whenDue t) e h h') (hfailed : ∀ d, e ≠ .ok (some (.ok d)))
    (hskipped : e ≠ .ok none) (caller : Caller) : Sends i h' caller := by
  obtain ⟨c', ht', he, -⟩ := ht.ended hends
  have hl : c'.lastSync = c.lastSync := by
    rcases he.lastSync with ⟨⟨d, rfl⟩, -⟩ | ⟨-, hl⟩
    · exact absurd rfl (hfailed d)
    · exact hl
  rw [ht'.sends_iff, he.settings, Client.ttl_congr he.settings, hl, he.clock]
  rcases hends with ⟨hat, hcall⟩ | ⟨hx, hend⟩
  · obtain rfl : t = h.clock := hat
    have hw : c.wantsSync h.clock = true := by
      by_contra hw
      rw [callSync_of_not_wantsSync ht.client hw, Prod.mk.injEq, Option.some.injEq] at hcall
      exact hskipped hcall.2.symm
    obtain ⟨hauto, hkey, hdue, hs⟩ := (wantsSync_iff c _).1 hw
    rw [(callSync_sameFlight ht.client hcall).inFlight i]
    exact ⟨hauto, hkey, ht.inFlight_eq_nil_iff.2 hs, hdue⟩
  · rename_i before after _ outcome
    obtain ⟨-, hle, hauto, hkey, hdue⟩ := ht.asked _ (mem_inFlight hx) t _ rfl
    have hheld := endSync_held { h with held := before ++ after } i (.whenDue t) outcome
    rw [hend] at hheld
    refine ⟨hauto, hkey, ?_, by omega⟩
    rw [inFlight, hheld, ← ht.inFlight_without hx, inFlight]

/-- The pace of a client's synchronisations: the time of the last one is not in the future and never
set back. It decides with the time to live whether a call for a synchronisation that is due sends a
request. After a success nothing is sent so before the time to live is over, counted from the time
of the call if it was such a call and from the present at the endpoint. A failure leaves the time of
the next request as it was, and is tried again at once if the call was for a synchronisation that
was due. -/
structure Paces (i : Nat) (h : Host Micros) (c : Client Micros) : Prop where
  past : c.lastSync.count ≤ h.clock.count
  later : ∀ {h'}, Moves i h h' → ∃ c', h'.client? i = some c'
    ∧ c.lastSync.count ≤ c'.lastSync.count
  sends_iff : ∀ caller, Sends i h caller ↔ c.settings.autoSync = true
    ∧ c.settings.isConfigured = true ∧ h.inFlight i = []
    ∧ c.ttl ≤ h.clock.count - c.lastSync.count
  sends_or : ∀ caller,
    (h.callSync i (.whenDue h.clock) caller).1.peer.seen = h.peer.seen ++ [c.patternsRequest]
      ∨ h.callSync i (.whenDue h.clock) caller = (h, some (.ok none))
  due : ∀ {t : Micros} {d : Dataset} {h' h'' : Host Micros},
    Ends i (.whenDue t) (.ok (some (.ok d))) h h' → Moves i h' h'' →
      ∀ caller, Sends i h'' caller → t.count + c.ttl ≤ h''.clock.count
  endpoint : ∀ {d : Dataset} {h' h'' : Host Micros}, Ends i .plain (.ok (some (.ok d))) h h' →
    Moves i (h'.answered i (.ok (some (.ok d)))) h'' →
      ∀ caller, Sends i h'' caller → h.clock.count + c.ttl ≤ h''.clock.count
  failed : ∀ {mode : SyncMode Micros} {e : SyncEnd} {h' : Host Micros}, Ends i mode e h h' →
    (∀ d, e ≠ .ok (some (.ok d))) → ∀ caller, Sends i h' caller ↔ c.settings.autoSync = true
      ∧ c.settings.isConfigured = true ∧ h'.inFlight i = []
      ∧ c.ttl ≤ h.clock.count - c.lastSync.count
  retried : ∀ {t : Micros} {e : SyncEnd} {h' : Host Micros}, Ends i (.whenDue t) e h h' →
    (∀ d, e ≠ .ok (some (.ok d))) → e ≠ .ok none → ∀ caller, Sends i h' caller

theorem Timely.paces (ht : Timely i h c) : Paces i h c where
  past := ht.past
  later hm := by
    obtain ⟨c', ht', -, hle⟩ := ht.moves hm
    exact ⟨c', ht'.client, hle⟩
  sends_iff := ht.sends_iff
  sends_or := ht.sends_or
  due {t d h' h''} hends hm caller hsends := by
    obtain ⟨c', ht', he, -⟩ := ht.ended hends
    obtain ⟨c'', ht'', hsettings, hle⟩ := ht'.moves hm
    have hl : c'.lastSync = t := by
      rcases he.lastSync with ⟨-, hl, -⟩ | ⟨hne, -⟩
      · exact hl
      · exact absurd rfl (hne d)
    refine ht''.le_of_sends hsends (Client.ttl_congr (hsettings.trans he.settings)) ?_
    rwa [hl] at hle
  endpoint {d h' h''} hends hm caller hsends := by
    obtain ⟨c', ht', hs, hl⟩ := ht.answered hends
    obtain ⟨c'', ht'', hsettings, hle⟩ := ht'.moves hm
    refine ht''.le_of_sends hsends (Client.ttl_congr (hsettings.trans hs)) ?_
    rwa [hl] at hle
  failed {mode e h'} hends hne caller := by
    obtain ⟨c', ht', he, -⟩ := ht.ended hends
    have hl : c'.lastSync = c.lastSync := by
      rcases he.lastSync with ⟨⟨d, rfl⟩, -⟩ | ⟨-, hl⟩
      · exact absurd rfl (hne d)
      · exact hl
    rw [ht'.sends_iff, he.settings, Client.ttl_congr he.settings, hl, he.clock]
  retried hends hne hskipped caller := ht.retried hends hne hskipped caller

/-- The pace is kept from any host on whose client is free and has not been synchronised in the
future, in whatever order calls begin, wait and end while the clock goes on. -/
theorem paces_of_moves {h₀ : Host Micros} {c₀ : Client Micros} (hc₀ : h₀.client? i = some c₀)
    (hheld : h₀.inFlight i = []) (hfree : c₀.syncing = false)
    (hpast : c₀.lastSync.count ≤ h₀.clock.count) (hm : Moves i h₀ h) :
    ∃ c, h.client? i = some c ∧ c.settings = c₀.settings
      ∧ c₀.lastSync.count ≤ c.lastSync.count ∧ Paces i h c := by
  have ht₀ : Timely i h₀ c₀ := by
    refine ⟨hc₀, hpast, by rw [hheld, hfree]; rfl, fun x hx => ?_⟩
    rw [hheld] at hx
    cases hx
  obtain ⟨c, ht, hsettings, hle⟩ := ht₀.moves hm
  exact ⟨c, ht.client, hsettings, hle, ht.paces⟩

end Timely

/-- A host one day after its client was synchronised, whose peer holds one pattern back. -/
def dayHost : Host Micros :=
  { answering [{ outcome := .response 200 onePatternBody, held := true }] with
    clock := ⟨86400000000⟩ }

/-- The synchronisation that is due on one day lands with one pattern, and the next day has to pass
before another one is sent. -/
theorem paced_from_day_to_day : ∃ d h', Ends 0 (.whenDue dayHost.clock) (.ok (some (.ok d)))
      (dayHost.run [.syncWhenDue none true]) h'
    ∧ Sends 0 dayHost (.call 0)
    ∧ ∀ h'' caller, Moves 0 h' h'' → Sends 0 h'' caller → 172800000000 ≤ h''.clock.count := by
  have hc₀ : dayHost.client? 0
      = some { settings := { apiKey := "key" }, snapshot := { dataset := .bootstrap },
               lastSync := ⟨0⟩ } := rfl
  have hbegun : Moves 0 dayHost (dayHost.run [.syncWhenDue none true]) :=
    moves_run dayHost (by simpa using .syncWhenDue true)
  obtain ⟨c₁, hc₁, -, -, hp₁⟩ := paces_of_moves hc₀ rfl rfl (by decide) .refl
  obtain ⟨c, hc, hsettings, -, hp⟩ := paces_of_moves hc₀ rfl rfl (by decide) hbegun
  have hheld : (dayHost.run [.syncWhenDue none true]).held
      = [] ++ [{ client := 0, task := .sync (.whenDue dayHost.clock) (.call 0),
                 outcome := .response 200 onePatternBody }] := rfl
  have hbody : Json.ofDocument onePatternBody = .ok onePattern := rfl
  obtain ⟨t, ht⟩ : ∃ t, TimeScale.toDateTime dayHost.clock = .ok t := ⟨_, rfl⟩
  obtain ⟨d, hd⟩ : ∃ d, Dataset.ofPayload onePattern t = .ok d := ⟨_, rfl⟩
  have hend := (endSync_eq_dataset_iff (h := { dayHost.run [.syncWhenDue none true] with held := [] })
    hc (.whenDue dayHost.clock) (.response 200 onePatternBody) d).2
    (.mk (by decide) hbody ht hd)
  have hlanded : Ends 0 (.whenDue dayHost.clock) (.ok (some (.ok d))) _ _ :=
    .landed hheld (Prod.ext rfl hend)
  refine ⟨d, _, hlanded, ?_, fun h'' caller hm hsends => ?_⟩
  · obtain rfl := Option.some.inj (hc₀.symm.trans hc₁)
    exact (hp₁.sends_iff (.call 0)).2 ⟨rfl, rfl, rfl, by decide⟩
  · have hle := hp.due hlanded hm caller hsends
    rwa [Client.ttl_congr hsettings] at hle

end Host

end BotSentry
