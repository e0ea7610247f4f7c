import BotSentry.Proofs.Conservation

/-!
# The workers of a client

A client that runs has as many workers as it was started with, and of these those are dead whose
sending has escaped since then (`Manned`): an event that could not be written, or a request that ended with
a fault that has nothing to do with the transfer. So events are stuck, without anybody to take them, exactly
when as many sendings have escaped as there are workers (`workers_account`).
-/

namespace BotSentry

/-- Whether the sending of an event has ended its worker. -/
def Fate.escaped : Fate → Bool
  | .sending _ => false
  | .done ending => ending.escapes

/-- How many sendings have escaped since the client was last started. -/
def Ledger.escaped (l : Ledger) : Nat := (l.fates.drop l.began).countP Fate.escaped

/-- How many workers a client is started with. -/
def Settings.crew (s : Settings) : Nat := (max 1 s.workers).toNat

namespace Reporter

/-- How many workers are alive. -/
def alive (r : Reporter) : Nat := r.workers.countP (· ≠ .dead)

/-- Events wait, none is being sent, and nobody can take one. -/
def Stuck (r : Reporter) : Prop :=
  r.waiting ≠ [] ∧ (∀ worker e, ¬ r.Sends worker e)
    ∧ ∀ worker : Nat, r.workers[worker]? ≠ some .idle

theorem alive_add_count_dead (r : Reporter) : r.alive + r.workers.count .dead = r.workers.length := by
  rw [alive, List.count, List.length_eq_countP_add_countP (p := (· ≠ .dead))]
  congr 2
  funext w
  cases w <;> simp

theorem alive_eq_zero_iff {r : Reporter} : r.alive = 0
    ↔ (∀ worker e, ¬ r.Sends worker e) ∧ ∀ worker : Nat, r.workers[worker]? ≠ some .idle := by
  simp only [alive, List.countP_eq_zero, decide_eq_true_eq, not_not, Sends]
  constructor
  · intro hdead
    constructor
    · intro worker e he
      cases hdead _ (List.mem_of_getElem? he)
    · intro worker hidle
      cases hdead _ (List.mem_of_getElem? hidle)
  · rintro ⟨hsends, hidle⟩ w hw
    obtain ⟨worker, hworker⟩ := List.mem_iff_getElem?.1 hw
    cases w with
    | idle => exact absurd hworker (hidle worker)
    | sending e => exact absurd hworker (hsends worker e)
    | dead => rfl

end Reporter

theorem countP_escaped_close (worker : Nat) (ending : Ending) : ∀ fates : List Fate,
    (fates.map (Fate.close (· = worker) ending)).countP Fate.escaped
      = fates.countP Fate.escaped
        + if ending.escapes then fates.count (.sending worker) else 0
  | [] => by simp
  | f :: fates => by
    have ih := countP_escaped_close worker ending fates
    rw [List.map_cons, List.countP_cons, List.countP_cons, List.count_cons, ih]
    rcases f with w | ending'
    · by_cases hw : w = worker <;> by_cases he : ending.escapes = true <;>
        simp [Fate.close, Fate.escaped, hw, he, Nat.add_assoc]
    · have hne : (Fate.done ending' == .sending worker) = false := by simp
      simp only [Fate.close, hne, Bool.false_eq_true, ↓reduceIte, Nat.add_zero]
      exact Nat.add_right_comm ..

variable {τ : Type} [TimeScale τ]

namespace Host

/-- A client that runs has its crew, less those whose sending has escaped since it was started. -/
structure Manned (s : Settings) (l : Ledger) (c : Client τ) : Prop where
  began : l.began ≤ l.fates.length
  before : ∀ worker, Fate.sending worker ∉ l.fates.take l.began
  crew : c.reporter.isRunning = true →
    c.reporter.workers.length = s.crew ∧ c.reporter.workers.count .dead = l.escaped

section Manned

omit [TimeScale τ]

variable {i : Nat} {s : Settings} {h h' : Host τ} {l : Ledger} {c c' : Client τ}

theorem Manned.congr (m : Manned s l c) (hw : c'.reporter.workers = c.reporter.workers) :
    Manned s l c' := by
  refine ⟨m.began, m.before, ?_⟩
  rw [Reporter.isRunning, hw]
  exact m.crew

theorem Manned.start (m : Manned s l c) (b : Balanced i s h l c) :
    Manned s (if h.isRunning i then l else l.start) c.start.1 := by
  have hrun : h.isRunning i = c.reporter.isRunning := by simp [isRunning, b.client]
  rw [hrun]
  rcases hr : c.reporter.isRunning with _ | _
  · have hempty : c.reporter.workers = [] := by simpa [Reporter.isRunning] using hr
    have hworkers : c.start.1.reporter.workers = List.replicate s.crew .idle := by
      simp [Client.start, Reporter.start, hr, Settings.crew, b.settings]
    refine ⟨Nat.le_refl _, fun worker hmem => ?_, fun _ => ⟨?_, ?_⟩⟩
    · simp only [Bool.false_eq_true, ↓reduceIte, Ledger.start, List.take_length] at hmem
      obtain ⟨e, he⟩ := b.exists_sends hmem
      simp [Reporter.Sends, hempty] at he
    · rw [hworkers, List.length_replicate]
    · simp [hworkers, Ledger.escaped, Ledger.start, List.count_replicate]
  · exact m.congr (by simp [Client.start, Reporter.start, hr])

theorem Manned.halt (m : Manned s l c) (hw : c'.reporter.workers = []) :
    Manned s (l.close (fun _ => true) .cancelled) c' := by
  refine ⟨?_, fun worker hmem => ?_, fun hr => ?_⟩
  · simp only [Ledger.close, List.length_map]
    exact m.began
  · simp only [Ledger.close, ← List.map_take, List.mem_map, Fate.close_eq_sending_iff,
      Bool.true_eq_false, and_false, exists_false] at hmem
  · simp [Reporter.isRunning, hw] at hr

/-- The worker that takes an event was alive, and stays so unless the sending escapes at once. -/
theorem Manned.take (m : Manned s l c) {worker : Nat} {e : Event} {rest : List Event}
    (hidle : c.reporter.workers[worker]? = some .idle) (t : Taken i h h' c c' worker e rest)
    (posts : List Outbound) : Manned s (l.take (h.fateAfter h' i worker e) posts) c' := by
  have hw := t.workers
  generalize h.fateAfter h' i worker e = fate at hw ⊢
  obtain ⟨hlt, hget⟩ := List.getElem?_eq_some_iff.1 hidle
  have hlength : l.began ≤ (l.fates ++ [fate]).length := by
    rw [List.length_append]
    exact Nat.le_add_right_of_le m.began
  refine ⟨hlength, ?_, fun _ => ?_⟩
  · simp only [Ledger.take, List.take_append_of_le_length m.began]
    exact m.before
  · have hrun : c.reporter.isRunning = true := by
      cases hws : c.reporter.workers <;> simp_all [Reporter.isRunning]
    obtain ⟨hcrew, hdead⟩ := m.crew hrun
    refine ⟨by rw [hw, List.length_set, hcrew], ?_⟩
    have hfate : (if fate.worker e == .dead then 1 else 0) = if fate.escaped then 1 else 0 := by
      rcases fate with w | ending
      · rfl
      · by_cases he : ending.escapes = true <;> simp [Fate.worker, Fate.escaped, he]
    rw [hw, List.count_set hlt, hget, hdead, hfate]
    simp only [Ledger.escaped, Ledger.take, List.drop_append_of_le_length m.began,
      List.countP_append, List.countP_singleton]
    simp

/-- The worker whose request ends goes on unless the end escapes. -/
theorem Manned.finish (m : Manned s l c) (b : Balanced i s h l c) {worker : Nat} {e : Event}
    (hsends : c.reporter.Sends worker e) (outcome : Outcome)
    (hw : c'.reporter.workers
      = c.reporter.workers.set worker (if outcome.isForeign then .dead else .idle)) :
    Manned s (l.close (· = worker) (.posted outcome)) c' := by
  obtain ⟨hlt, hget⟩ := List.getElem?_eq_some_iff.1 hsends
  refine ⟨?_, fun w hmem => ?_, fun _ => ?_⟩
  · simp only [Ledger.close, List.length_map]
    exact m.began
  · simp only [Ledger.close, ← List.map_take, List.mem_map, Fate.close_eq_sending_iff] at hmem
    obtain ⟨f, hf, rfl, -⟩ := hmem
    exact m.before w hf
  · have hrun : c.reporter.isRunning = true := by
      cases hws : c.reporter.workers <;> simp_all [Reporter.isRunning]
    obtain ⟨hcrew, hdead⟩ := m.crew hrun
    refine ⟨by rw [hw, List.length_set, hcrew], ?_⟩
    have hone : (l.fates.drop l.began).count (.sending worker) = 1 := by
      obtain ⟨k, hk, -⟩ := (b.sends worker e).1 hsends
      have hpos := List.count_pos_iff.2 (List.mem_of_getElem? hk)
      have hsingle := b.single worker
      have hbefore := List.count_eq_zero.2 (m.before worker)
      have hsplit := congrArg (List.count (Fate.sending worker))
        (List.take_append_drop l.began l.fates)
      rw [List.count_append] at hsplit
      omega
    simp only [Ledger.escaped, Ledger.close, ← List.map_drop]
    rw [countP_escaped_close, hone, hw, List.count_set hlt, hget, hdead, Ledger.escaped]
    by_cases hforeign : outcome.isForeign = true <;> simp [Ending.escapes, hforeign]

end Manned

section Account

variable {i : Nat} {s : Settings} {h h' : Host τ} {l : Ledger} {c c' c₀ : Client τ}

/-- A report queues or drops, and the workers go on as before. -/
theorem report_workers (hc : h.client? i = some c) (d : Detection) (v : Visit) : ∃ c',
    (h.report i d v).1.client? i = some c' ∧ c'.reporter.workers = c.reporter.workers := by
  have hcases := report_cases hc d v
  generalize h.report i d v = result at hcases ⊢
  cases hcases with
  | skipped | undated => exact ⟨c, hc, rfl⟩
  | queued | full => exact ⟨_, client?_setClient_self hc, rfl⟩

/-- Every entry keeps the crew, along with the balance. -/
theorem manned_entry {b b' : Host τ × Ledger} (he : Entry i b b')
    (hm : ∃ c, Balanced i s b.1 b.2 c ∧ Manned s b.2 c) :
    ∃ c, Balanced i s b'.1 b'.2 c ∧ Manned s b'.2 c := by
  obtain ⟨c, hb, hm⟩ := hm
  obtain ⟨c₁, hb₁⟩ := balanced_entry he ⟨c, hb⟩
  suffices hm' : ∃ c', b'.1.client? i = some c' ∧ Manned s b'.2 c' by
    obtain ⟨c', hc', hm'⟩ := hm'
    obtain rfl := Option.some.inj (hb₁.client.symm.trans hc')
    exact ⟨c₁, hb₁, hm'⟩
  cases he with
  | @queued _ _ _ d v e =>
    obtain ⟨c', hc', hw⟩ := report_workers hb.client d v
    have hm' := hm.congr hw
    exact ⟨c', hc', hm'.began, hm'.before, hm'.crew⟩
  | @refused _ _ d v =>
    obtain ⟨c', hc', hw⟩ := report_workers hb.client d v
    exact ⟨c', hc', hm.congr hw⟩
  | started => exact ⟨_, client?_start hb.client, hm.start hb⟩
  | stopped _ _ hasTime =>
    refine ⟨_, client?_stop hb.client hasTime, hm.halt ?_⟩
    split_ifs with hr
    · rfl
    · simpa [Reporter.isRunning] using hr
  | taken hc htake hh' =>
    obtain rfl : c = _ := Option.some.inj (hb.client.symm.trans hc)
    obtain ⟨c', t⟩ := taken_of_sendEvent hc (hb.pending_eq_zero htake) htake
    rw [hh'] at t
    exact ⟨c', t.client, hm.take htake.idle t _⟩
  | @ended h l before after x worker hx hevent =>
    obtain ⟨e, he⟩ := (hb.sends_of_held hx hevent).1
    have hc : { h with held := before ++ after }.client? i = some c := hb.client
    refine ⟨_, client?_finishEvent hc worker x.outcome, hm.finish hb he x.outcome ?_⟩
    rw [Outcome.delivered_isOk]
    by_cases hforeign : x.outcome.isForeign = true <;> simp [Reporter.finish, hforeign]
  | apart hapart =>
    obtain ⟨c', hc', hs, hr⟩ := hapart.client c hb.client
    exact ⟨c', hc', hm.congr (by rw [hr])⟩

theorem manned_entries {b b' : Host τ × Ledger} (he : Entries i b b')
    (hm : ∃ c, Balanced i s b.1 b.2 c ∧ Manned s b.2 c) :
    ∃ c, Balanced i s b'.1 b'.2 c ∧ Manned s b'.2 c := by
  induction he with
  | refl => exact hm
  | tail _ hentry ih => exact manned_entry hentry ih

theorem manned_account {h₀ : Host τ} (hc₀ : h₀.client? i = some c₀) (hnew : c₀.reporter = {})
    (hnone : ∀ worker, h₀.pending i worker = 0) (ha : Account i h₀ h l) :
    ∃ c, Balanced i c₀.settings h l c ∧ Manned c₀.settings l c :=
  manned_entries ha ⟨c₀, balanced_opened hc₀ hnew hnone,
    ⟨Nat.le_refl 0, by simp, by simp [Reporter.isRunning, hnew]⟩⟩

/-! ## What escapes -/

/-- Of the faults that the transport defines, those escape that are none of the transfer. -/
theorem isForeign_ofClass_iff {c : FaultClass} {message : String} :
    (Outcome.fault (.ofClass c message)).isForeign = true ↔ c.isA .httpError = false := by
  have hkind : c.kind = .foreign ↔ c.isA .httpError = false := by cases c <;> decide
  rw [← hkind]
  exact decide_eq_true_iff

omit [TimeScale τ] in
theorem sendNow_ok_iff {h : Host τ} {c : Client τ} {document : Json}
    (ha : (h.peer.take (c.eventRequest document)).1.held = false) :
    (∃ b, (h.sendNow c document).2 = .ok b)
      ↔ (Text.encode (document.write false)).isOk = true ∧ h.peer.nextOutcome.isForeign = false := by
  have hok := h.peer.nextOutcome.delivered_isOk c.settings.collectorEndpoint
  rw [← Bool.not_eq_true', ← hok]
  unfold sendNow
  rcases hw : Text.encode (document.write false) with fault | body
  · simp [Except.isOk, Except.toBool]
  · simp only [askNow, ha, Peer.take_outcome]
    rcases hd : h.peer.nextOutcome.delivered c.settings.collectorEndpoint with ⟨notices, f | b⟩ <;>
      simp [hd, Except.isOk, Except.toBool, Except.mapError]

/-- A document is sent with a result if and only if it can be written and its request does not end with
a fault that has nothing to do with the transfer. The workers of a client that runs send events in just
this way: as many are alive as it was started with, less one for each sending that has escaped since. So
events are stuck if and only if as many have escaped as there are workers. -/
theorem workers_account {h₀ : Host τ} (hc₀ : h₀.client? i = some c₀) (hnew : c₀.reporter = {})
    (hnone : ∀ worker, h₀.pending i worker = 0) :
    (∀ (h : Host τ) c document, (h.peer.take (c.eventRequest document)).1.held = false →
        ((∃ b, (h.sendNow c document).2 = .ok b) ↔ (Text.encode (document.write false)).isOk = true
          ∧ h.peer.nextOutcome.isForeign = false))
      ∧ (∀ fault message, (Outcome.fault (.ofClass fault message)).isForeign = true
        ↔ fault.isA .httpError = false)
      ∧ (∀ h, Steps h₀ h → ∃ l, Account i h₀ h l)
      ∧ ∀ h l, Account i h₀ h l → ∃ c, h.client? i = some c ∧ (c.reporter.isRunning = true →
        c.reporter.alive + l.escaped = c₀.settings.crew
          ∧ (c.reporter.Stuck ↔ c.reporter.waiting ≠ [] ∧ l.escaped = c₀.settings.crew)) := by
  refine ⟨fun h c document ha => sendNow_ok_iff ha, fun fault message => isForeign_ofClass_iff,
    fun h hs => exists_account_of_steps i hs, fun h l ha => ?_⟩
  obtain ⟨c, b, m⟩ := manned_account hc₀ hnew hnone ha
  refine ⟨c, b.client, fun hr => ?_⟩
  obtain ⟨hcrew, hdead⟩ := m.crew hr
  have halive : c.reporter.alive + l.escaped = c₀.settings.crew := by
    rw [← hdead, ← hcrew]
    exact c.reporter.alive_add_count_dead
  refine ⟨halive, and_congr_right fun _ => ?_⟩
  rw [← Reporter.alive_eq_zero_iff]
  omega

end Account

/-- A host whose next two requests meet a malformed address, which is a fault that the transport
defines. -/
def malformedHost : Host Micros :=
  answering (List.replicate 2 { outcome := .fault (.ofClass .invalidUrl "") })

/-- Its client has started with three events. -/
def stuckHost : Host Micros :=
  (([(), (), ()].foldl (fun h _ => (h.report 0 (.referrer default none) {}).1)
    malformedHost).start 0).workOn 0

/-- A send that meets a malformed address has no result, and where all workers have met one events wait
for ever while the client runs. -/
theorem stuck_after_invalidUrl :
    (∀ c document, ¬ ∃ b, (malformedHost.sendNow c document).2 = .ok b)
      ∧ ∃ c, stuckHost.client? 0 = some c ∧ c.reporter.isRunning = true ∧ c.reporter.Stuck := by
  refine ⟨fun c document => ?_, _, rfl, rfl, by decide, Reporter.alive_eq_zero_iff.1 rfl⟩
  rw [sendNow_ok_iff rfl]
  rintro ⟨-, hforeign⟩
  cases hforeign

/-- Both workers of a client are lost to malformed addresses. -/
theorem crew_lost_to_invalidUrl : ∃ l c, Account 0 malformedHost stuckHost l
    ∧ stuckHost.client? 0 = some c ∧ c.reporter.isRunning = true ∧ c.reporter.alive = 0
    ∧ l.escaped = 2 := by
  have hsteps : Steps malformedHost stuckHost :=
    ((steps_foldl (fun h _ => .single (.report h 0 (.referrer default none) {})) [(), (), ()]
      malformedHost).tail (.start _ 0)).trans (steps_workOn _ 0)
  obtain ⟨-, -, haccount, hcrew⟩ :=
    workers_account (show malformedHost.client? 0 = some _ from rfl) rfl fun _ => rfl
  obtain ⟨l, ha⟩ := haccount _ hsteps
  obtain ⟨c, hc, halive⟩ := hcrew _ l ha
  obtain ⟨c', hc', hr, hzero⟩ : ∃ c, stuckHost.client? 0 = some c
      ∧ c.reporter.isRunning = true ∧ c.reporter.alive = 0 := ⟨_, rfl, rfl, rfl⟩
  obtain rfl : c = c' := Option.some.inj (hc.symm.trans hc')
  have htwo := (halive hr).1
  rw [hzero, Nat.zero_add] at htwo
  exact ⟨l, c, ha, hc, hr, hzero, htwo⟩

end Host

end BotSentry
