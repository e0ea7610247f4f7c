import BotSentry.Proofs.Sending
import BotSentry.Proofs.Steps

/-!
# A ledger of events

A ledger keeps the events that one client has queued, what has become of those that its workers have
taken, and the requests that went out for them. It is kept while the host runs: whatever happens to the
reporter of that client is an entry, and everything else passes it by (`Entry`). Nothing that a host
does is left out (`exists_entry_of_step`), so every run has an account (`exists_account_of_steps`). A
stop stands for its end, when its time is over or all events are done; what happens until then are steps
of their own.
-/

namespace BotSentry

/-- Whether a request has ended with a fault that has nothing to do with the transfer. -/
def Outcome.isForeign : Outcome → Bool
  | .response .. => false
  | .fault f => f.kind = .foreign

theorem Outcome.delivered_isOk (outcome : Outcome) (endpoint : String) :
    (outcome.delivered endpoint).2.isOk = !outcome.isForeign := by
  unfold delivered isForeign
  rcases outcome with ⟨status, body⟩ | f
  · dsimp only
    split_ifs <;> rfl
  · rcases f with ⟨_ | _ | _ | _, name, message⟩ <;> rfl

/-- How the sending of an event has ended: it could not be written, its request has ended, or it was
given up when the client stopped. -/
inductive Ending where
  | unwritten
  | posted (outcome : Outcome)
  | cancelled
  deriving DecidableEq

/-- Whether nobody expects such an end, so that it ends the worker too. -/
def Ending.escapes : Ending → Bool
  | .unwritten => true
  | .posted outcome => outcome.isForeign
  | .cancelled => false

/-- What has become of an event that a worker has taken. -/
inductive Fate where
  | sending (worker : Nat)
  | done (ending : Ending)
  deriving DecidableEq

/-- The worker that has taken an event, by the fate of the event. -/
def Fate.worker (e : Event) : Fate → Worker
  | .sending _ => .sending e
  | .done ending => if ending.escapes then .dead else .idle

def Fate.close (whose : Nat → Bool) (ending : Ending) : Fate → Fate
  | .sending worker => if whose worker then .done ending else .sending worker
  | .done ending => .done ending

structure Ledger where
  /-- The events that have been queued, in order. -/
  queued : List Event := []
  /-- The fates of those that workers have taken, in order. -/
  fates : List Fate := []
  /-- The requests that went out for them, in order. -/
  posts : List Outbound := []
  /-- How many had been taken when the client was last started. -/
  began : Nat := 0

namespace Ledger

def queue (l : Ledger) (e : Event) : Ledger := { l with queued := l.queued ++ [e] }

/-- The next event is taken, with the requests that go out. -/
def take (l : Ledger) (fate : Fate) (posts : List Outbound) : Ledger :=
  { l with fates := l.fates ++ [fate], posts := l.posts ++ posts }

/-- The sendings of some workers end. -/
def close (l : Ledger) (whose : Nat → Bool) (ending : Ending) : Ledger :=
  { l with fates := l.fates.map (Fate.close whose ending) }

def start (l : Ledger) : Ledger := { l with began := l.fates.length }

end Ledger

/-- Whether an event can be written at all. -/
def Event.isWritable (e : Event) : Bool := (Text.encode (e.toJson.write false)).isOk

/-- Whether a request is that of a worker of some client. -/
def Held.isEventOf {τ : Type} (i worker : Nat) (x : Held τ) : Bool :=
  x.client = i && match x.task with
    | .event w => w = worker
    | .sync .. => false

theorem Held.isEventOf_iff {τ : Type} {x : Held τ} {i worker : Nat} :
    x.isEventOf i worker = true ↔ x.client = i ∧ x.task = .event worker := by
  unfold Held.isEventOf
  rcases x.task with w | _ <;> simp

variable {τ : Type} [TimeScale τ]

namespace Host

/-- How many requests of a worker are held back. -/
def pending (h : Host τ) (i worker : Nat) : Nat := h.held.countP (·.isEventOf i worker)

/-- The fate of an event that a worker of a host has taken, by what the host then holds back. -/
def fateAfter (h h' : Host τ) (i worker : Nat) (e : Event) : Fate :=
  if 0 < h'.pending i worker then .sending worker
  else .done (if e.isWritable then .posted h.peer.nextOutcome else .unwritten)

/-- What happens between two states passes the reporter of a client by. -/
structure Apart (i : Nat) (h h' : Host τ) : Prop where
  client : ∀ c, h.client? i = some c →
    ∃ c', h'.client? i = some c' ∧ c'.settings = c.settings ∧ c'.reporter = c.reporter
  pending : ∀ worker, h'.pending i worker = h.pending i worker

/-- One entry in the ledger of a client: what a host does next, and how the ledger goes on. -/
inductive Entry (i : Nat) : Host τ × Ledger → Host τ × Ledger → Prop
  | queued {h : Host τ} {l : Ledger} {c : Client τ} {d : Detection} {v : Visit} {e : Event} :
      h.client? i = some c → c.event d v h.clock = .ok e → (h.report i d v).2 = .ok true →
      Entry i (h, l) ((h.report i d v).1, l.queue e)
  | refused {h : Host τ} {l : Ledger} {d : Detection} {v : Visit} :
      (h.report i d v).2 ≠ .ok true → Entry i (h, l) ((h.report i d v).1, l)
  | started (h : Host τ) (l : Ledger) :
      Entry i (h, l) (h.start i, if h.isRunning i then l else l.start)
  | stopped (h : Host τ) (l : Ledger) (hasTime : Bool) :
      Entry i (h, l) (h.stop i hasTime, l.close (fun _ => true) .cancelled)
  /-- A worker takes an event and sends it, up to where it has to wait. -/
  | taken {h h' : Host τ} {l : Ledger} {c : Client τ} {worker : Nat} {e : Event} {r : Reporter} :
      h.client? i = some c → c.reporter.Takes worker e r →
      h.sendEvent i worker { c with reporter := r } e = h' →
      Entry i (h, l)
        (h', l.take (h.fateAfter h' i worker e) (h'.peer.seen.drop h.peer.seen.length))
  /-- A request for which a worker waits comes to its end. -/
  | ended {h : Host τ} {l : Ledger} {before after : List (Held τ)} {x : Held τ} {worker : Nat} :
      h.held = before ++ x :: after → x.isEventOf i worker = true →
      Entry i (h, l) ({ h with held := before ++ after }.finishEvent i worker x.outcome,
        l.close (· = worker) (.posted x.outcome))
  | apart {h h' : Host τ} {l : Ledger} : Apart i h h' → Entry i (h, l) (h', l)

/-- Any number of entries. -/
abbrev Entries (i : Nat) : Host τ × Ledger → Host τ × Ledger → Prop :=
  Relation.ReflTransGen (Entry i)

/-- A run of a host, and the ledger of one of its clients since the run began. -/
abbrev Account (i : Nat) (h₀ h : Host τ) (l : Ledger) : Prop := Entries i (h₀, {}) (h, l)

/-! ## What passes a reporter by -/

section Apart

omit [TimeScale τ]

variable {h h' : Host τ} {i j : Nat} {c c' : Client τ}

theorem Apart.refl (i : Nat) (h : Host τ) : Apart i h h :=
  ⟨fun c hc => ⟨c, hc, rfl, rfl⟩, fun _ => rfl⟩

theorem Apart.trans {h'' : Host τ} (h₁ : Apart i h h') (h₂ : Apart i h' h'') : Apart i h h'' := by
  refine ⟨fun c hc => ?_, fun w => (h₂.pending w).trans (h₁.pending w)⟩
  obtain ⟨c', hc', hs, hr⟩ := h₁.client c hc
  obtain ⟨c'', hc'', hs', hr'⟩ := h₂.client c' hc'
  exact ⟨c'', hc'', hs'.trans hs, hr'.trans hr⟩

theorem apart_of_same (hc : h'.clients = h.clients) (hh : h'.held = h.held) : Apart i h h' :=
  ⟨fun c hi => ⟨c, by rwa [client?, hc], rfl, rfl⟩, fun w => by rw [pending, hh, pending]⟩

theorem Apart.note (ha : Apart i h h') (notices : List Notice) : Apart i h (h'.note notices) :=
  ha.trans (apart_of_same rfl rfl)

/-- What changes of a client is not its reporter, or it is another client. -/
theorem apart_setClient (hc : h.client? j = some c) (c' : Client τ)
    (hr : j = i → c'.settings = c.settings ∧ c'.reporter = c.reporter) :
    Apart i h (h.setClient j c') := by
  refine ⟨fun ci hi => ?_, fun _ => rfl⟩
  by_cases hji : j = i
  · subst hji
    rw [hc, Option.some.injEq] at hi
    exact ⟨c', client?_setClient_self hc, hi ▸ (hr rfl).1, hi ▸ (hr rfl).2⟩
  · exact ⟨ci, by rwa [client?_setClient_of_ne (Ne.symm hji)], rfl, rfl⟩

/-- A request that is none of the client's events comes to its end. -/
theorem apart_without {before after : List (Held τ)} {x : Held τ}
    (hx : h.held = before ++ x :: after) (hne : ∀ worker, x.isEventOf i worker = false) :
    Apart i h { h with held := before ++ after } := by
  refine ⟨fun c hc => ⟨c, hc, rfl, rfl⟩, fun w => ?_⟩
  simp [pending, hx, hne w]

theorem apart_finishEvent (hji : j ≠ i) (h : Host τ) (worker : Nat) (outcome : Outcome) :
    Apart i h (h.finishEvent j worker outcome) := by
  rcases hc : h.client? j with _ | c
  · rw [finishEvent_of_none hc]
    exact .refl i h
  · rw [finishEvent_eq hc]
    exact Apart.note (apart_setClient hc _ fun hj => absurd hj hji) _

theorem apart_sendEvent (hji : j ≠ i) (hc : h.client? j = some c) (worker : Nat) (c' : Client τ)
    (e : Event) : Apart i h (h.sendEvent j worker c' e) := by
  have hset : ∀ c', Apart i h (h.setClient j c') :=
    fun c' => apart_setClient hc c' fun hj => absurd hj hji
  have hposted : Apart i h (h.posted j c' e) := (hset c').trans (apart_of_same rfl rfl)
  have hcases := sendEvent_cases h j worker c' e
  generalize h.sendEvent j worker c' e = h' at hcases ⊢
  cases hcases with
  | unwritten => exact hset _
  | answered => exact hposted.trans (apart_finishEvent hji _ worker _)
  | held =>
    refine hposted.trans ⟨fun c hc => ⟨c, hc, rfl, rfl⟩, fun w => ?_⟩
    simp [pending, posted, setClient, Held.isEventOf, hji]

theorem apart_start (hji : j ≠ i) (h : Host τ) : Apart i h (h.start j) := by
  unfold start
  split
  · exact .refl i h
  · rename_i c hc
    exact Apart.note (apart_setClient hc c.start.1 fun hj => absurd hj hji) _

theorem apart_stop (hji : j ≠ i) (h : Host τ) (hasTime : Bool) :
    Apart i h (h.stop j hasTime) := by
  unfold stop
  split
  · exact .refl i h
  · rename_i c hc
    split
    · exact .refl i h
    · have hset : Apart i h (h.setClient j { c with reporter := c.reporter.halt }) :=
        apart_setClient hc _ fun hj => absurd hj hji
      refine ⟨hset.client, fun w => ?_⟩
      simp only [pending, List.countP_filter]
      refine List.countP_congr fun x _ => ?_
      by_cases hx : x.isEventOf i w = true
      · have hne : x.client ≠ j := fun hj => hji (hj.symm.trans (Held.isEventOf_iff.1 hx).1)
        simp [hx, hne]
      · simp [hx]

theorem apart_free (h : Host τ) (x : Held τ) : Apart i h (h.free x) := by
  unfold free
  split
  · exact .refl i h
  · rename_i c hc
    exact apart_setClient hc _ fun _ => ⟨rfl, rfl⟩

end Apart

section Sync

variable {h h' : Host τ} {i j : Nat} {c : Client τ}

theorem apart_endSync (h : Host τ) (mode : SyncMode τ) (outcome : Outcome) :
    Apart i h (h.endSync j mode outcome).1 := by
  rcases hc : h.client? j with _ | c
  · rw [endSync_of_none hc]
    exact .refl i h
  · obtain ⟨cache, notices, c', he, hs, hr⟩ := exists_endSync_eq hc mode outcome
    have hcache : Apart i h ({ h with cache }.note notices) := apart_of_same rfl rfl
    have hc' : ({ h with cache }.note notices).client? j = some c := hc
    rw [he]
    exact hcache.trans (apart_setClient hc' c' fun _ => ⟨hs, hr⟩)

theorem apart_callSync (h : Host τ) (mode : SyncMode τ) (caller : Caller) :
    Apart i h (h.callSync j mode caller).1 := by
  rcases hc : h.client? j with _ | c
  · rw [callSync_of_none hc]
    exact .refl i h
  · have hcases := callSync_cases hc mode caller
    generalize h.callSync j mode caller = result at hcases ⊢
    cases hcases with
    | refused | skipped => exact .refl i h
    | @requested notices _ _ hr =>
      have hn : (h.note notices).client? j = some c := hc
      have hset : Apart i h (h.setClient j { c with syncing := true }) :=
        apart_setClient hc _ fun _ => ⟨rfl, rfl⟩
      have hbegun : Apart i h ((h.note notices).begun j c) := hset.trans (apart_of_same rfl rfl)
      cases hr with
      | answered => exact hbegun.trans (apart_endSync _ mode _)
      | givenUp =>
        exact hbegun.trans (apart_setClient (client?_begun hn) c fun _ => ⟨rfl, rfl⟩)
      | held =>
        refine hbegun.trans ⟨fun c hc => ⟨c, hc, rfl, rfl⟩, fun w => ?_⟩
        simp [pending, begun, setClient, note, Held.isEventOf]

end Sync

/-! ## What a worker does -/

section Taken

omit [TimeScale τ]

variable {h h' : Host τ} {i worker : Nat} {c c' : Client τ} {e : Event} {rest : List Event}

theorem fateAfter_eq_sending {w : Nat} (hf : h.fateAfter h' i worker e = .sending w) :
    w = worker := by
  unfold fateAfter at hf
  split_ifs at hf
  exact (Fate.sending.inj hf).symm

theorem fateAfter_worker_eq_sending {e' : Event} :
    (h.fateAfter h' i worker e).worker e = .sending e'
      ↔ h.fateAfter h' i worker e = .sending worker ∧ e = e' := by
  rcases hf : h.fateAfter h' i worker e with w | ending
  · obtain rfl := fateAfter_eq_sending hf
    simp [Fate.worker]
  · simp only [Fate.worker, reduceCtorEq, false_and, iff_false]
    split_ifs <;> simp

/-- What it means for a client and its host that a worker takes the oldest event: the fate of the event
says what the worker goes on to do and whether a request is held back, and the request has gone out if
the event can be written. -/
structure Taken (i : Nat) (h h' : Host τ) (c c' : Client τ) (worker : Nat) (e : Event)
    (rest : List Event) : Prop where
  client : h'.client? i = some c'
  settings : c'.settings = c.settings
  waiting : c'.reporter.waiting = rest
  workers : c'.reporter.workers
    = c.reporter.workers.set worker ((h.fateAfter h' i worker e).worker e)
  pending : ∀ w, h'.pending i w
    = h.pending i w + if h.fateAfter h' i worker e = .sending w then 1 else 0
  posts : h'.peer.seen.drop h.peer.seen.length
    = if e.isWritable then [c.eventRequest e.toJson] else []

theorem taken_of_sendEvent (hc : h.client? i = some c) (hnone : h.pending i worker = 0)
    {r : Reporter} (htake : c.reporter.Takes worker e r) :
    ∃ c', Taken i h (h.sendEvent i worker { c with reporter := r } e) c c' worker e r.waiting := by
  have hworkers : r.workers = c.reporter.workers.set worker (.sending e) := by
    cases htake
    rfl
  generalize hc₁ : ({ c with reporter := r } : Client τ) = c₁
  obtain rfl : c₁.reporter = r := by rw [← hc₁]
  have hsettings : c₁.settings = c.settings := by rw [← hc₁]
  have hrequest := Client.eventRequest_congr hsettings
  have hcases := sendEvent_cases h i worker c₁ e
  generalize h.sendEvent i worker c₁ e = h' at hcases ⊢
  cases hcases with
  | unwritten hw =>
    have hwritable : e.isWritable = false := by rw [Event.isWritable, hw]; rfl
    have hf : h.fateAfter (h.setClient i { c₁ with reporter := c₁.reporter.finish worker false })
        i worker e = .done .unwritten := by
      rw [fateAfter, if_neg (by change ¬ 0 < h.pending i worker; omega), hwritable]
      rfl
    refine ⟨_, client?_setClient_self hc, hsettings, rfl, ?_, fun w => ?_, ?_⟩
    · rw [hf]
      simp [Reporter.finish, hworkers, Fate.worker, Ending.escapes]
    · rw [hf]
      rfl
    · rw [hwritable]
      exact List.drop_length
  | answered hw ha =>
    have hwritable : e.isWritable = true := by rw [Event.isWritable, hw]; rfl
    have hposted : (h.posted i c₁ e).client? i = some c₁ := client?_setClient_self hc
    rw [finishEvent_eq hposted, Outcome.delivered_isOk]
    generalize (h.peer.nextOutcome.delivered c₁.settings.collectorEndpoint).1 = notices
    have hf : h.fateAfter (((h.posted i c₁ e).setClient i { c₁ with
        reporter := c₁.reporter.finish worker !h.peer.nextOutcome.isForeign }).note notices)
          i worker e = .done (.posted h.peer.nextOutcome) := by
      rw [fateAfter, if_neg (by change ¬ 0 < h.pending i worker; omega), hwritable]
      rfl
    refine ⟨_, client?_setClient_self hposted, hsettings, rfl, ?_, fun w => ?_, ?_⟩
    · rw [hf]
      by_cases hforeign : h.peer.nextOutcome.isForeign = true <;>
        simp [Reporter.finish, hworkers, Fate.worker, Ending.escapes, hforeign]
    · rw [hf]
      rfl
    · simp [hwritable, note, setClient, posted, Peer.take_seen, hrequest]
  | held hw ha =>
    have hwritable : e.isWritable = true := by rw [Event.isWritable, hw]; rfl
    generalize hx : ({ client := i, task := .event worker, outcome := h.peer.nextOutcome } :
      Held τ) = x
    have hpending : ∀ w, { h.posted i c₁ e with held := h.held ++ [x] }.pending i w
        = h.pending i w + if Fate.sending worker = .sending w then 1 else 0 := by
      intro w
      simp [pending, Held.isEventOf, List.countP_append, List.countP_singleton, ← hx]
    have hf : h.fateAfter { h.posted i c₁ e with held := h.held ++ [x] } i worker e
        = .sending worker := by
      rw [fateAfter, hpending, if_pos rfl, if_pos (Nat.succ_pos _)]
    refine ⟨c₁, client?_setClient_self hc, hsettings, rfl, ?_, fun w => ?_, ?_⟩
    · rw [hf, hworkers]
      rfl
    · rw [hf, hpending]
    · simp [hwritable, setClient, posted, Peer.take_seen, hrequest]

end Taken

/-! ## Everything is accounted for -/

theorem apart_report {i j : Nat} (hji : j ≠ i) (h : Host τ) (d : Detection) (v : Visit) :
    Apart i h (h.report j d v).1 := by
  unfold report
  split
  · exact .refl i h
  · rename_i c hc
    exact (apart_setClient hc _ fun hj => absurd hj hji).note _

theorem exists_event_of_report {h : Host τ} {i : Nat} {d : Detection} {v : Visit}
    (hr : (h.report i d v).2 = .ok true) :
    ∃ c e, h.client? i = some c ∧ c.event d v h.clock = .ok e := by
  rcases hc : h.client? i with _ | c
  · simp [report, hc] at hr
  · have hcases := report_cases hc d v
    rcases hreport : h.report i d v with ⟨h', result⟩
    rw [hreport] at hcases hr
    obtain rfl : result = .ok true := hr
    cases hcases with
    | queued _ _ he _ => exact ⟨c, _, rfl, he⟩

/-- Whatever a host does in a step can be entered. -/
theorem exists_entry_of_step {h h' : Host τ} (hs : Step h h') (i : Nat) (l : Ledger) :
    ∃ l', Entry i (h, l) (h', l') := by
  cases hs with
  | surroundings hc hh => exact ⟨l, .apart (apart_of_same hc hh)⟩
  | build hn =>
    refine ⟨l, .apart ⟨fun c hc => ⟨c, ?_, rfl, rfl⟩, fun w => rfl⟩⟩
    rwa [client?, List.getElem?_append_left (client?_lt hc)]
  | detect userAgent referrer hc => exact ⟨l, .apart (apart_setClient hc _ fun _ => ⟨rfl, rfl⟩)⟩
  | detectBot userAgent hc => exact ⟨l, .apart (apart_setClient hc _ fun _ => ⟨rfl, rfl⟩)⟩
  | install d hc => exact ⟨l, .apart (apart_setClient hc _ fun _ => ⟨rfl, rfl⟩)⟩
  | mark lastSync hc => exact ⟨l, .apart (apart_setClient hc _ fun _ => ⟨rfl, rfl⟩)⟩
  | report j d v =>
    by_cases hji : j = i
    · subst hji
      by_cases hr : (h.report j d v).2 = .ok true
      · obtain ⟨c, e, hc, he⟩ := exists_event_of_report hr
        exact ⟨_, .queued hc he hr⟩
      · exact ⟨l, .refused hr⟩
    · exact ⟨l, .apart (apart_report hji h d v)⟩
  | start j =>
    by_cases hji : j = i
    · subst hji
      exact ⟨_, .started h l⟩
    · exact ⟨l, .apart (apart_start hji h)⟩
  | stop j hasTime =>
    by_cases hji : j = i
    · subst hji
      exact ⟨_, .stopped h l hasTime⟩
    · exact ⟨l, .apart (apart_stop hji h hasTime)⟩
  | @send j worker c e r hc htake =>
    by_cases hji : j = i
    · subst hji
      exact ⟨_, .taken hc htake rfl⟩
    · exact ⟨l, .apart (apart_sendEvent hji hc worker _ e)⟩
  | @sent before after x worker hx htask =>
    by_cases hji : x.client = i
    · subst hji
      exact ⟨_, .ended hx (Held.isEventOf_iff.2 ⟨rfl, htask⟩)⟩
    · have hne : ∀ w, x.isEventOf i w = false := by simp [Held.isEventOf, hji]
      exact ⟨l, .apart ((apart_without hx hne).trans (apart_finishEvent hji _ worker _))⟩
  | call j mode caller => exact ⟨l, .apart (apart_callSync h mode caller)⟩
  | @synced before after x mode caller hx htask =>
    have hne : ∀ w, x.isEventOf i w = false := by simp [Held.isEventOf, htask]
    exact ⟨l, .apart ((apart_without hx hne).trans (apart_endSync _ mode _))⟩
  | @cancel before after x mode caller hx htask =>
    have hne : ∀ w, x.isEventOf i w = false := by simp [Held.isEventOf, htask]
    exact ⟨l, .apart ((apart_without hx hne).trans (apart_free _ x))⟩

/-- Whatever a host does, the ledger of each of its clients can be kept. -/
theorem exists_account_of_steps (i : Nat) {h₀ h : Host τ} (hs : Steps h₀ h) :
    ∃ l, Account i h₀ h l := by
  induction hs with
  | refl => exact ⟨{}, .refl⟩
  | tail _ hstep ih =>
    obtain ⟨l, ha⟩ := ih
    obtain ⟨l', he⟩ := exists_entry_of_step hstep i l
    exact ⟨l', ha.tail he⟩

end Host

end BotSentry
