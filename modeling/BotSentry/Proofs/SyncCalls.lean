import BotSentry.Host.Sync
import Mathlib.Tactic.Common

/-!
# The ways of a call for a synchronisation

A call is refused because of an obstacle, or it is skipped because it is not due, or its client sends a
request (`callSync_cases`). What comes of that is known at once, or the request is held back, and
whoever has called gives up or goes on without it.
-/

namespace BotSentry

namespace Peer

/-- How the next request is going to end. -/
def nextOutcome (p : Peer) : Outcome := (p.answers.head?.getD silence).outcome

theorem take_outcome (p : Peer) (request : Outbound) :
    (p.take request).1.outcome = p.nextOutcome := by
  unfold take nextOutcome
  rcases p.answers with _ | ⟨answer, rest⟩ <;> rfl

theorem take_seen (p : Peer) (request : Outbound) :
    (p.take request).2.seen = p.seen ++ [request] := by
  unfold take
  rcases p.answers with _ | ⟨answer, rest⟩ <;> rfl

end Peer

variable {τ : Type} [TimeScale τ]

namespace Client

theorem endSync_keeps (c : Client τ) (cache : Cache τ) (outcome : Outcome) (now : τ) :
    (c.endSync cache outcome now).1.settings = c.settings
      ∧ (c.endSync cache outcome now).1.reporter = c.reporter := by
  unfold endSync
  rcases outcome.receive (TimeScale.toDateTime now) with x | e | d <;> exact ⟨rfl, rfl⟩

omit [TimeScale τ] in
theorem conclude_keeps (c : Client τ) (mode : SyncMode τ) (result : SyncResult) :
    (c.conclude mode result).1.settings = c.settings
      ∧ (c.conclude mode result).1.reporter = c.reporter := by
  unfold conclude
  rcases mode with _ | now <;> rcases result with e | d <;> exact ⟨rfl, rfl⟩

end Client

namespace Host

/-! ## The clients of a host -/

section Lookup

omit [TimeScale τ]

variable {h : Host τ} {i : Nat} {c : Client τ}

theorem client?_setClient (h : Host τ) (i : Nat) (c : Client τ) (j : Nat) :
    (h.setClient i c).client? j
      = if i = j then (if i < h.clients.length then some c else none) else h.client? j := by
  simp only [client?, setClient, List.getElem?_set]

theorem client?_setClient_self {c₀ : Client τ} (hc : h.client? i = some c₀) :
    (h.setClient i c).client? i = some c := by
  have hlt : i < h.clients.length := (List.getElem?_eq_some_iff.1 hc).1
  rw [client?_setClient, if_pos rfl, if_pos hlt]

theorem client?_setClient_of_ne {j : Nat} (hne : j ≠ i) :
    (h.setClient i c).client? j = h.client? j := by
  rw [client?_setClient, if_neg (Ne.symm hne)]

@[simp] theorem client?_note (h : Host τ) (notices : List Notice) (i : Nat) :
    (h.note notices).client? i = h.client? i := rfl

theorem ask_clients (h : Host τ) (i : Nat) (task : Task τ) (request : Outbound) :
    (h.ask i task request).1.clients = h.clients := by
  unfold ask
  dsimp only
  split <;> rfl

theorem client?_lt (hc : h.client? i = some c) : i < h.clients.length :=
  (List.getElem?_eq_some_iff.1 hc).1

end Lookup

/-! ## Calls -/

section Calls

variable {h : Host τ} {i : Nat} {c : Client τ}

/-- A client has sent the request of a synchronisation. -/
def begun (h : Host τ) (i : Nat) (c : Client τ) : Host τ :=
  { h.setClient i { c with syncing := true } with peer := (h.peer.take c.patternsRequest).2 }

omit [TimeScale τ] in
theorem client?_begun (hc : h.client? i = some c) :
    (h.begun i c).client? i = some { c with syncing := true } :=
  client?_setClient_self hc

/-- The ways of a request of a synchronisation: it is at an end, the host does not wait for it, or
another caller goes on without it. -/
inductive Requested (h : Host τ) (i : Nat) (c : Client τ) (mode : SyncMode τ) :
    Caller → Host τ × Option SyncEnd → Prop
  | answered {caller : Caller} : (h.peer.take c.patternsRequest).1.held = false →
      Requested h i c mode caller (((h.begun i c).endSync i mode h.peer.nextOutcome).1,
        some ((h.begun i c).endSync i mode h.peer.nextOutcome).2)
  | givenUp : (h.peer.take c.patternsRequest).1.held = true →
      Requested h i c mode .host ((h.begun i c).setClient i c, some (.error .timedOut))
  | held {caller : Caller} : (h.peer.take c.patternsRequest).1.held = true → caller ≠ .host →
      Requested h i c mode caller
        ({ h.begun i c with held := h.held ++ [{ client := i, task := .sync mode caller,
                                                 outcome := h.peer.nextOutcome }] }, none)

theorem requestSync_answered (ha : (h.peer.take c.patternsRequest).1.held = false)
    (mode : SyncMode τ) (caller : Caller) :
    h.requestSync i c mode caller
      = (((h.begun i c).endSync i mode h.peer.nextOutcome).1,
        some ((h.begun i c).endSync i mode h.peer.nextOutcome).2) := by
  rw [← Peer.take_outcome h.peer c.patternsRequest]
  unfold requestSync
  dsimp only
  cases caller <;> simp only [askNow, ask, setClient, ha, Bool.false_eq_true, ↓reduceIte] <;> rfl

theorem requestSync_cases (h : Host τ) (i : Nat) (c : Client τ) (mode : SyncMode τ)
    (caller : Caller) : Requested h i c mode caller (h.requestSync i c mode caller) := by
  rcases ha : (h.peer.take c.patternsRequest).1.held with _ | _
  · rw [requestSync_answered ha]
    exact .answered ha
  · have ho := Peer.take_outcome h.peer c.patternsRequest
    cases caller with
    | host =>
      simp only [requestSync, askNow, setClient, ha, ↓reduceIte]
      exact .givenUp ha
    | call number =>
      simp only [requestSync, ask, setClient, ha, ↓reduceIte, ho]
      exact .held ha nofun
    | loop =>
      simp only [requestSync, ask, setClient, ha, ↓reduceIte, ho]
      exact .held ha nofun

omit [TimeScale τ] in
theorem syncObstacle?_eq_none_iff :
    c.syncObstacle? = none ↔ c.settings.isConfigured = true ∧ c.syncing = false := by
  unfold Client.syncObstacle?
  split_ifs <;> simp_all

theorem endSync_of_none (hc : h.client? i = none) (mode : SyncMode τ) (outcome : Outcome) :
    h.endSync i mode outcome = (h, .ok none) := by
  simp only [endSync, hc]

/-- The end of a synchronisation touches the cache, the notices and its client, and of the client neither
the settings nor the reporter. -/
theorem exists_endSync_eq (hc : h.client? i = some c) (mode : SyncMode τ) (outcome : Outcome) :
    ∃ cache notices c',
      (h.endSync i mode outcome).1 = ({ h with cache }.note notices).setClient i c'
        ∧ c'.settings = c.settings ∧ c'.reporter = c.reporter := by
  have hkeeps := c.endSync_keeps h.cache outcome h.clock
  unfold endSync
  simp only [hc]
  rcases he : c.endSync h.cache outcome h.clock with ⟨c', cache, notices, x | result⟩
  all_goals
    rw [he] at hkeeps
    obtain ⟨hs, hr⟩ := hkeeps
  · exact ⟨cache, notices, c', rfl, hs, hr⟩
  · obtain ⟨hs', hr'⟩ := c'.conclude_keeps mode result
    refine ⟨cache, notices ++ (c'.conclude mode result).2, (c'.conclude mode result).1, ?_,
      hs'.trans hs, hr'.trans hr⟩
    simp only [note, setClient, List.append_assoc]

theorem callSync_of_none (hc : h.client? i = none) (mode : SyncMode τ) (caller : Caller) :
    h.callSync i mode caller = (h, some (.ok none)) := by
  simp only [callSync, hc]

theorem callSync_plain_of_obstacle (hc : h.client? i = some c) {e : SyncError}
    (he : c.syncObstacle? = some e) (caller : Caller) :
    h.callSync i .plain caller = (h, some (.ok (some (.error e)))) := by
  simp only [callSync, hc, he]

theorem callSync_plain (hc : h.client? i = some c) (he : c.syncObstacle? = none)
    (caller : Caller) : h.callSync i .plain caller = h.requestSync i c .plain caller := by
  simp only [callSync, hc, he]

/-- The ways of a call for a synchronisation: there is an obstacle, or nothing is due, or there is no
obstacle and the client sends a request. -/
inductive Called (h : Host τ) (i : Nat) (c : Client τ) (mode : SyncMode τ) (caller : Caller) :
    Host τ × Option SyncEnd → Prop
  | refused {e : SyncError} : c.syncObstacle? = some e →
      Called h i c mode caller (h, some (.ok (some (.error e))))
  | skipped : Called h i c mode caller (h, some (.ok none))
  | requested {notices : List Notice} {result : Host τ × Option SyncEnd} :
      c.syncObstacle? = none → Requested (h.note notices) i c mode caller result →
      Called h i c mode caller result

theorem callSync_cases (hc : h.client? i = some c) (mode : SyncMode τ) (caller : Caller) :
    Called h i c mode caller (h.callSync i mode caller) := by
  cases mode with
  | plain =>
    rcases ho : c.syncObstacle? with _ | e
    · rw [callSync_plain hc ho]
      have hn : h.note [] = h := by rw [note, List.append_nil]
      refine .requested ho (?_ : Requested (h.note []) i c .plain caller _)
      rw [hn]
      exact requestSync_cases h i c .plain caller
    · rw [callSync_plain_of_obstacle hc ho]
      exact .refused ho
  | whenDue now =>
    by_cases hw : c.wantsSync now = true
    · have ho : c.syncObstacle? = none := by
        simp only [Client.wantsSync, Bool.and_eq_true, Bool.not_eq_true'] at hw
        exact syncObstacle?_eq_none_iff.2 ⟨hw.1.1.2, hw.2⟩
      simp only [callSync, hc, hw, ↓reduceIte]
      exact .requested ho (requestSync_cases _ i c _ caller)
    · simp only [callSync, hc, hw]
      exact .skipped

end Calls

end Host

end BotSentry
