import BotSentry.Host.Traffic
import BotSentry.Proofs.SyncCalls

/-!
# The ways of an event

A report says nothing to the collector, or its event is queued, or dropped where the queue is full
(`report_cases`). An event that a worker has taken cannot be written, or its request goes out; what comes
of that is known at once, or the request is held back and the worker waits for it (`sendEvent_cases`).
-/

namespace BotSentry

theorem Client.eventRequest_congr {τ : Type} {c c' : Client τ} (hs : c'.settings = c.settings) :
    c'.eventRequest = c.eventRequest := by
  funext document
  simp only [eventRequest, hs]

namespace Host

/-! ## Reports -/

section Reports

variable {τ : Type} [TimeScale τ] {h : Host τ} {i : Nat} {c : Client τ}

/-- The ways of a report: there is nothing to tell or nobody to tell it to, the clock shows no date, or
there is an event, and room for it or not. -/
inductive Reported (h : Host τ) (i : Nat) (c : Client τ) (d : Detection) (v : Visit) :
    Host τ × Except Interruption Bool → Prop
  | skipped : c.settings.isConfigured = false ∨ d.detected = false →
      Reported h i c d v (h, .ok false)
  | undated {fault : TimeFault} : c.settings.isConfigured = true → d.detected = true →
      c.event d v h.clock = .error fault → Reported h i c d v (h, .error (.time fault))
  | queued {e : Event} : c.settings.isConfigured = true → d.detected = true →
      c.event d v h.clock = .ok e →
      Reporter.hasRoom c.settings.queueSize c.reporter.waiting.length = true →
      Reported h i c d v (h.setClient i { c with reporter := { c.reporter with
        waiting := c.reporter.waiting ++ [e], unfinished := c.reporter.unfinished + 1 } }, .ok true)
  | full {e : Event} : c.settings.isConfigured = true → d.detected = true →
      c.event d v h.clock = .ok e →
      Reporter.hasRoom c.settings.queueSize c.reporter.waiting.length = false →
      Reported h i c d v ((h.setClient i { c with reporter := { c.reporter with
        dropped := c.reporter.dropped + 1 } }).note
          [.queueFull d.kind.name (c.reporter.dropped + 1)], .ok false)

omit [TimeScale τ] in
theorem setClient_self (hc : h.client? i = some c) : h.setClient i c = h := by
  obtain ⟨hlt, rfl⟩ := List.getElem?_eq_some_iff.1 hc
  rw [setClient, List.set_getElem_self]

theorem report_cases (hc : h.client? i = some c) (d : Detection) (v : Visit) :
    Reported h i c d v (h.report i d v) := by
  have hself : (h.setClient i c).note [] = h := by rw [setClient_self hc, note, List.append_nil]
  unfold report Client.report
  simp only [hc]
  split_ifs with hskip
  · rw [hself]
    exact .skipped (by simpa using hskip)
  · simp only [Bool.or_eq_true, Bool.not_eq_true', not_or, Bool.not_eq_false] at hskip
    rcases he : c.event d v h.clock with fault | e
    · simp only [hself]
      exact .undated hskip.1 hskip.2 he
    · rcases hroom : Reporter.hasRoom c.settings.queueSize c.reporter.waiting.length with _ | _
      · simp only [Reporter.offer, hroom, Bool.false_eq_true, ↓reduceIte]
        exact .full hskip.1 hskip.2 he hroom
      · simp only [Reporter.offer, hroom, ↓reduceIte, note, List.append_nil]
        exact .queued hskip.1 hskip.2 he hroom

end Reports

/-! ## Sending -/

variable {τ : Type} {h : Host τ} {i : Nat} {c : Client τ}

theorem finishEvent_of_none (hc : h.client? i = none) (worker : Nat) (outcome : Outcome) :
    h.finishEvent i worker outcome = h := by
  simp only [finishEvent, hc]

theorem finishEvent_eq (hc : h.client? i = some c) (worker : Nat) (outcome : Outcome) :
    h.finishEvent i worker outcome
      = (h.setClient i { c with
          reporter := c.reporter.finish worker
            (outcome.delivered c.settings.collectorEndpoint).2.isOk }).note
          (outcome.delivered c.settings.collectorEndpoint).1 := by
  simp only [finishEvent, hc]

theorem client?_finishEvent (hc : h.client? i = some c) (worker : Nat) (outcome : Outcome) :
    (h.finishEvent i worker outcome).client? i = some { c with
      reporter := c.reporter.finish worker
        (outcome.delivered c.settings.collectorEndpoint).2.isOk } := by
  rw [finishEvent_eq hc]
  exact client?_setClient_self hc

theorem client?_start (hc : h.client? i = some c) :
    (h.start i).client? i = some c.start.1 := by
  simp only [start, hc]
  exact client?_setClient_self hc

theorem client?_stop (hc : h.client? i = some c) (hasTime : Bool) :
    (h.stop i hasTime).client? i
      = some (if c.reporter.isRunning then { c with reporter := c.reporter.halt } else c) := by
  rcases hr : c.reporter.isRunning with _ | _
  · simp only [stop, hc, hr, Bool.not_false, ↓reduceIte, Bool.false_eq_true]
  · simp only [stop, hc, hr, Bool.not_true, Bool.false_eq_true, ↓reduceIte]
    exact client?_setClient_self hc

/-- A client has sent the request of an event. -/
def posted (h : Host τ) (i : Nat) (c : Client τ) (e : Event) : Host τ :=
  { h.setClient i c with peer := (h.peer.take (c.eventRequest e.toJson)).2 }

/-- The ways of an event: it cannot be written, its request is at an end, or its worker waits. -/
inductive Sending (h : Host τ) (i worker : Nat) (c : Client τ) (e : Event) : Host τ → Prop
  | unwritten {fault : Text.EncodeFault} : Text.encode (e.toJson.write false) = .error fault →
      Sending h i worker c e
        (h.setClient i { c with reporter := c.reporter.finish worker false })
  | answered {body : Bytes} : Text.encode (e.toJson.write false) = .ok body →
      (h.peer.take (c.eventRequest e.toJson)).1.held = false →
      Sending h i worker c e ((h.posted i c e).finishEvent i worker h.peer.nextOutcome)
  | held {body : Bytes} : Text.encode (e.toJson.write false) = .ok body →
      (h.peer.take (c.eventRequest e.toJson)).1.held = true →
      Sending h i worker c e
        { h.posted i c e with held := h.held ++ [{ client := i, task := .event worker,
                                                   outcome := h.peer.nextOutcome }] }

theorem sendEvent_cases (h : Host τ) (i worker : Nat) (c : Client τ) (e : Event) :
    Sending h i worker c e (h.sendEvent i worker c e) := by
  have ho := Peer.take_outcome h.peer (c.eventRequest e.toJson)
  unfold sendEvent
  rcases hw : Text.encode (e.toJson.write false) with fault | body
  · exact .unwritten hw
  · rcases ha : (h.peer.take (c.eventRequest e.toJson)).1.held with _ | _
    · simp only [ask, setClient, ha, Bool.false_eq_true, ↓reduceIte, ho]
      exact .answered hw ha
    · simp only [ask, setClient, ha, ↓reduceIte, ho]
      exact .held hw ha

end Host

end BotSentry
