import BotSentry.Host.Action
import BotSentry.Proofs.Serving
import BotSentry.Proofs.Storage
import BotSentry.Proofs.SyncCalls
import Mathlib.Logic.Relation

/-!
# Steps of a host

What a host does without a pause is a `Step`: a call for a synchronisation up to where it has to wait,
the arrival of one answer, one event that a worker takes, a report, a cancellation. Between two steps
anything else may happen, so the `Steps` of a host are all its interleavings.

Whatever a host is asked to do comes down to steps. A relation that holds of each of them, and of
several of them in a row, is a `Course`, and then it holds of every action and of every run
(`Course.act`, `Course.run`); where only actions of some kind are asked for, it need not know what the
others do. That the peer lets several requests go at once is no exception, since a step does not look at
the requests that are held back before its own (`Course.release`). `Steps` itself is a course of all
actions.
-/

namespace BotSentry

variable {τ : Type} [TimeScale τ]

namespace Client

/-- The client has just been built. -/
def IsNew (c : Client τ) : Prop :=
  ∃ settings cache now cache' notices, Client.build settings cache now = .ok (c, cache', notices)

theorem IsNew.fresh {c : Client τ} (h : c.IsNew) :
    ∃ settings snapshot lastSync, c = { settings, snapshot, lastSync } := by
  obtain ⟨settings, cache, now, cache', notices, hb⟩ := h
  unfold build at hb
  split at hb
  · simp at hb
  · dsimp only at hb
    split at hb
    · simp at hb
    · simp only [Except.ok.injEq, Prod.mk.injEq] at hb
      exact ⟨_, _, _, hb.1.symm⟩

end Client

namespace Reporter

/-- A worker that is idle takes the oldest event. -/
inductive Takes (r : Reporter) (worker : Nat) (e : Event) : Reporter → Prop
  | mk {rest : List Event} : r.waiting = e :: rest → r.workers[worker]? = some .idle →
      Takes r worker e { r with waiting := rest, workers := r.workers.set worker (.sending e) }

theorem Takes.idle {r r' : Reporter} {worker : Nat} {e : Event} (h : r.Takes worker e r') :
    r.workers[worker]? = some .idle := by
  obtain ⟨-, hidle⟩ := h
  exact hidle

theorem takes_of_take? {r r' : Reporter} {worker : Nat} {e : Event}
    (h : r.take? = some (worker, e, r')) : r.Takes worker e r' := by
  unfold take? at h
  split at h
  · simp at h
  · rename_i e' rest hw
    obtain ⟨i, hi, heq⟩ := Option.map_eq_some_iff.1 h
    simp only [Prod.mk.injEq] at heq
    obtain ⟨rfl, rfl, rfl⟩ := heq
    obtain ⟨hlt, hidle, -⟩ := List.findIdx?_eq_some_iff_getElem.1 hi
    refine .mk hw ?_
    rw [List.getElem?_eq_getElem hlt, of_decide_eq_true hidle]

end Reporter

namespace Host

/-- One thing that a host does without a pause, or that happens around its clients. -/
inductive Step : Host τ → Host τ → Prop
  /-- Neither the clients nor the requests that are held back change. -/
  | surroundings {h h' : Host τ} : h'.clients = h.clients → h'.held = h.held → Step h h'
  | build {h : Host τ} {c : Client τ} : c.IsNew → Step h { h with clients := h.clients ++ [c] }
  | detect {h : Host τ} {i : Nat} {c : Client τ} (userAgent referrer : String) :
      h.client? i = some c → Step h (h.setClient i (c.detect userAgent referrer).1)
  | detectBot {h : Host τ} {i : Nat} {c : Client τ} (userAgent : String) :
      h.client? i = some c → Step h (h.setClient i (c.detectBot userAgent).1)
  | install {h : Host τ} {i : Nat} {c : Client τ} (d : Dataset) : h.client? i = some c →
      Step h (h.setClient i { c with snapshot := c.snapshot.install d })
  | mark {h : Host τ} {i : Nat} {c : Client τ} (lastSync : τ) : h.client? i = some c →
      Step h (h.setClient i { c with lastSync })
  | report (h : Host τ) (i : Nat) (d : Detection) (v : Visit) : Step h (h.report i d v).1
  | start (h : Host τ) (i : Nat) : Step h (h.start i)
  | stop (h : Host τ) (i : Nat) (hasTime : Bool) : Step h (h.stop i hasTime)
  /-- A worker takes an event and sends it. -/
  | send {h : Host τ} {i worker : Nat} {c : Client τ} {e : Event} {r : Reporter} :
      h.client? i = some c → c.reporter.Takes worker e r →
      Step h (h.sendEvent i worker { c with reporter := r } e)
  /-- The sending of an event that was held back comes to its end. -/
  | sent {h : Host τ} {before after : List (Held τ)} {x : Held τ} {worker : Nat} :
      h.held = before ++ x :: after → x.task = .event worker →
      Step h ({ h with held := before ++ after }.finishEvent x.client worker x.outcome)
  /-- A call for a synchronisation, up to where it has to wait. -/
  | call (h : Host τ) (i : Nat) (mode : SyncMode τ) (caller : Caller) :
      Step h (h.callSync i mode caller).1
  /-- A synchronisation that was held back comes to its end. -/
  | synced {h : Host τ} {before after : List (Held τ)} {x : Held τ} {mode : SyncMode τ}
      {caller : Caller} : h.held = before ++ x :: after → x.task = .sync mode caller →
      Step h ({ h with held := before ++ after }.endSync x.client mode x.outcome).1
  /-- A synchronisation that is held back is cancelled. -/
  | cancel {h : Host τ} {before after : List (Held τ)} {x : Held τ} {mode : SyncMode τ}
      {caller : Caller} : h.held = before ++ x :: after → x.task = .sync mode caller →
      Step h ({ h with held := before ++ after }.free x)

/-- Any number of steps. -/
abbrev Steps : Host τ → Host τ → Prop := Relation.ReflTransGen Step

/-- A relation between what a host is before and after it is asked for actions of some kind: it holds
of everything that they come down to. -/
structure Course (P : Action τ → Prop) (R : Host τ → Host τ → Prop) : Prop where
  refl : ∀ h, R h h
  trans : ∀ {h h' h''}, R h h' → R h' h'' → R h h''
  /-- Nothing happens to the clients and to any request, and the cache is read at most. -/
  surroundings : ∀ {h h' : Host τ}, h'.clients = h.clients → h'.held = h.held →
    h'.peer.seen = h.peer.seen → h'.cache.Within h.cache → R h h'
  detect : ∀ {h : Host τ} {i c} (userAgent referrer : String), h.client? i = some c →
    R h (h.setClient i (c.detect userAgent referrer).1)
  detectBot : ∀ {h : Host τ} {i c} (userAgent : String), h.client? i = some c →
    R h (h.setClient i (c.detectBot userAgent).1)
  report : ∀ h i d v, R h (h.report i d v).1
  start : ∀ h i, R h (h.start i)
  stop : ∀ h i hasTime, R h (h.stop i hasTime)
  send : ∀ {h : Host τ} {i worker c e r}, h.client? i = some c → c.reporter.Takes worker e r →
    R h (h.sendEvent i worker { c with reporter := r } e)
  sent : ∀ {h : Host τ} {before after x worker}, h.held = before ++ x :: after →
    x.task = .event worker →
    R h ({ h with held := before ++ after }.finishEvent x.client worker x.outcome)
  call : ∀ h i mode caller, R h (h.callSync i mode caller).1
  synced : ∀ {h : Host τ} {before after x mode caller}, h.held = before ++ x :: after →
    x.task = .sync mode caller →
    R h ({ h with held := before ++ after }.endSync x.client mode x.outcome).1
  cancel : ∀ {h : Host τ} {before after x mode caller}, h.held = before ++ x :: after →
    x.task = .sync mode caller → R h ({ h with held := before ++ after }.free x)
  /-- A synchronisation at the endpoint that succeeds sets the time. -/
  marked : ∀ {h h' : Host τ} {i c d}, h.sync i .plain = (h', .ok (some (.ok d))) →
    h'.client? i = some c → R h (h'.setClient i { c with lastSync := h'.clock })
  build : ∀ h {settings}, P (.build settings) → R h (h.build settings).1
  mark : ∀ {h : Host τ} {i c now}, P (.markSynced now) → h.client? i = some c →
    R h (h.setClient i { c with lastSync := now.getD h.clock })
  replace : ∀ h {d}, P (.replace d) → R h (h.replace d).1
  sendNow : ∀ h c {document}, P (.send document) → R h (h.sendNow c document).1

omit [TimeScale τ] in
theorem setClient_setClient (h : Host τ) (i : Nat) (c c' : Client τ) :
    (h.setClient i c).setClient i c' = h.setClient i c' := by
  simp only [setClient, List.set_set]

/-! ## Letting requests go -/

/-- The host with more requests that are held back, before its own. -/
def holding (h : Host τ) (l : List (Held τ)) : Host τ := { h with held := l ++ h.held }

section Holding

variable (h : Host τ) (l : List (Held τ))

omit [TimeScale τ] in
theorem finishEvent_holding (i worker : Nat) (outcome : Outcome) :
    (h.holding l).finishEvent i worker outcome = (h.finishEvent i worker outcome).holding l := by
  unfold finishEvent
  rcases hc : h.client? i with _ | c <;> simp only [show (h.holding l).client? i = _ from hc]
  rfl

omit [TimeScale τ] in
theorem ask_holding (i : Nat) (task : Task τ) (request : Outbound) :
    (h.holding l).ask i task request
      = ((h.ask i task request).1.holding l, (h.ask i task request).2) := by
  unfold ask
  rcases ha : (h.peer.take request).1.held with _ | _ <;> simp [holding, ha]

omit [TimeScale τ] in
theorem sendEvent_holding (i worker : Nat) (c : Client τ) (e : Event) :
    (h.holding l).sendEvent i worker c e = (h.sendEvent i worker c e).holding l := by
  unfold sendEvent
  split
  · rfl
  · rw [show (h.holding l).setClient i c = (h.setClient i c).holding l from rfl, ask_holding]
    rcases (h.setClient i c).ask i (.event worker) (c.eventRequest e.toJson) with ⟨h', _ | outcome⟩
    · rfl
    · exact finishEvent_holding h' l i worker outcome

omit [TimeScale τ] in
theorem runWorkers_holding (i : Nat) : ∀ (n : Nat) (h : Host τ),
    (h.holding l).runWorkers i n = (h.runWorkers i n).holding l
  | 0, _ => rfl
  | n + 1, h => by
    unfold runWorkers
    rcases hc : h.client? i with _ | c <;> simp only [show (h.holding l).client? i = _ from hc]
    rcases c.reporter.take? with _ | ⟨worker, e, r⟩
    · rfl
    · simp only [sendEvent_holding, runWorkers_holding i n]

omit [TimeScale τ] in
theorem workOn_holding (i : Nat) : (h.holding l).workOn i = (h.workOn i).holding l := by
  unfold workOn
  rcases hc : h.client? i with _ | c <;> simp only [show (h.holding l).client? i = _ from hc]
  exact runWorkers_holding l i _ h

theorem endSync_holding (i : Nat) (mode : SyncMode τ) (outcome : Outcome) :
    (h.holding l).endSync i mode outcome
      = ((h.endSync i mode outcome).1.holding l, (h.endSync i mode outcome).2) := by
  unfold endSync
  rcases hc : h.client? i with _ | c <;> simp only [show (h.holding l).client? i = _ from hc]
  simp only [show (h.holding l).cache = h.cache from rfl,
    show (h.holding l).clock = h.clock from rfl]
  rcases c.endSync h.cache outcome h.clock with ⟨c', cache, notices, x | result⟩ <;> rfl

omit [TimeScale τ] in
theorem deliver_holding (caller : Caller) (result : SyncEnd) :
    (h.holding l).deliver caller result = (h.deliver caller result).holding l := by
  cases caller with
  | host => rfl
  | call number => rfl
  | loop => rcases result with x | r <;> rfl

theorem resume_holding (x : Held τ) : (h.holding l).resume x = (h.resume x).holding l := by
  unfold resume
  split
  · rw [finishEvent_holding, workOn_holding]
  · simp only [endSync_holding, deliver_holding]

end Holding

omit [TimeScale τ] in
theorem free_with_held (h : Host τ) (x : Held τ) (l : List (Held τ)) :
    { h with held := l }.free x = { h.free x with held := l } := by
  unfold free
  rcases hc : h.client? x.client with _ | c <;>
    simp only [show { h with held := l }.client? x.client = _ from hc]
  rfl

/-! ## One after the other

What holds of one event that is taken, or of one request that is let go, and of several in a row, holds of
all of them. Nothing else is asked of the relation here, so that one which is not a course, since it depends
on the clock, has its share of this. -/

section Row

variable {R : Host τ → Host τ → Prop} (hrefl : ∀ h, R h h)
  (htrans : ∀ {h h' h''}, R h h' → R h' h'' → R h h'')

include hrefl htrans

omit [TimeScale τ] in
theorem foldl_of_step {β : Type} {f : Host τ → β → Host τ} (hf : ∀ h x, R h (f h x)) :
    ∀ (xs : List β) (h : Host τ), R h (xs.foldl f h)
  | [], h => hrefl h
  | x :: xs, h => htrans (hf h x) (foldl_of_step hf xs (f h x))

/-- The requests that are held back before some others are let go, one by one. -/
theorem resume_all_of_resume (hresume : ∀ {h : Host τ} {before after : List (Held τ)} {x : Held τ},
      h.held = before ++ x :: after → R h ({ h with held := before ++ after }.resume x)) :
    ∀ (l : List (Held τ)) (h : Host τ), R (h.holding l) (l.foldl resume h)
  | [], h => hrefl h
  | x :: l, h => by
    have hheld : (h.holding (x :: l)).held = [] ++ x :: (l ++ h.held) := rfl
    have hx := hresume hheld
    rw [show { h.holding (x :: l) with held := [] ++ (l ++ h.held) } = h.holding l from rfl,
      resume_holding] at hx
    exact htrans hx (resume_all_of_resume hresume l (h.resume x))

section Workers

variable (hsend : ∀ {h : Host τ} {i worker : Nat} {c : Client τ} {e : Event} {r : Reporter},
  h.client? i = some c → c.reporter.Takes worker e r →
    R h (h.sendEvent i worker { c with reporter := r } e))

include hsend

omit [TimeScale τ] in
theorem runWorkers_of_send (i : Nat) : ∀ (n : Nat) (h : Host τ), R h (h.runWorkers i n)
  | 0, h => hrefl h
  | n + 1, h => by
    unfold runWorkers
    split
    · exact hrefl h
    · rename_i c hc
      split
      · exact hrefl h
      · rename_i worker e r htake
        exact htrans (hsend hc (Reporter.takes_of_take? htake)) (runWorkers_of_send i n _)

omit [TimeScale τ] in
theorem workOn_of_send (h : Host τ) (i : Nat) : R h (h.workOn i) := by
  unfold workOn
  split
  · exact hrefl h
  · exact runWorkers_of_send hrefl htrans hsend i _ h

omit [TimeScale τ] in
theorem settle_of_send (h : Host τ) : R h h.settle :=
  foldl_of_step hrefl htrans (workOn_of_send hrefl htrans hsend) _ h

end Workers

end Row

section Course

namespace Course

variable {P : Action τ → Prop} {R : Host τ → Host τ → Prop} (hR : Course P R) {h h' : Host τ}

include hR

/-- Only the clock, what has been noted and what is wanted of the peer change. -/
theorem aside (hc : h'.clients = h.clients) (hh : h'.held = h.held)
    (hs : h'.peer.seen = h.peer.seen) (hcache : h'.cache.store = h.cache.store) : R h h' :=
  hR.surroundings hc hh hs (.of_store_eq hcache)

theorem noted (hr : R h h') (notices : List Notice) : R h (h'.note notices) :=
  hR.trans hr (hR.aside rfl rfl rfl rfl)

/-! ## Workers -/

theorem workOn (h : Host τ) (i : Nat) : R h (h.workOn i) :=
  workOn_of_send hR.refl hR.trans hR.send h i

theorem settle (h : Host τ) : R h h.settle := settle_of_send hR.refl hR.trans hR.send h

/-! ## Synchronisation -/

theorem deliver (h : Host τ) (caller : Caller) (result : SyncEnd) :
    R h (h.deliver caller result) := by
  unfold Host.deliver
  split
  · exact hR.refl h
  · exact hR.aside rfl rfl rfl rfl
  · split
    · exact hR.noted (hR.refl h) _
    · exact hR.refl h

theorem sync (h : Host τ) (i : Nat) (mode : SyncMode τ) : R h (h.sync i mode).1 :=
  hR.call h i mode .host

theorem syncFor (h : Host τ) (i : Nat) (mode : SyncMode τ) (caller : Caller) :
    R h (h.syncFor i mode caller) := by
  have hcall := hR.call h i mode caller
  unfold Host.syncFor
  split
  · rename_i h' result heq
    rw [heq] at hcall
    exact hR.trans hcall (hR.deliver h' caller result)
  · rename_i h' heq
    rwa [heq] at hcall

theorem syncBehind (h : Host τ) (i : Nat) (mode : SyncMode τ) : R h (h.syncBehind i mode) := by
  have hcalls : R h { h with calls := h.calls ++ [none] } := hR.aside rfl rfl rfl rfl
  exact hR.trans hcalls (hR.syncFor _ i mode _)

/-- One of the requests that are held back is let go. -/
theorem resume {before after : List (Held τ)} {x : Held τ} (hx : h.held = before ++ x :: after) :
    R h ({ h with held := before ++ after }.resume x) := by
  unfold Host.resume
  split
  · rename_i worker htask
    exact hR.trans (hR.sent hx htask) (hR.workOn _ _)
  · rename_i mode caller htask
    exact hR.trans (hR.synced hx htask) (hR.deliver _ _ _)

theorem release (h : Host τ) : R h h.release := by
  have hgo : R h ({ h with held := [], peer := { h.peer with letsGo := true } }.holding h.held) :=
    hR.aside rfl (List.append_nil _) rfl rfl
  have hall : R _ _ := resume_all_of_resume hR.refl hR.trans hR.resume h.held
    { h with held := [], peer := { h.peer with letsGo := true } }
  exact hR.trans (hR.trans hgo hall) (hR.aside rfl rfl rfl rfl)

/-- Of the requests behind some others those are cancelled that belong to some callers. -/
theorem cancel_behind (whose : Caller → Bool) :
    ∀ (l before : List (Held τ)) (h : Host τ), h.held = before ++ l →
      R h ((l.filter (·.isSyncFor whose)).foldl free
        { h with held := before ++ l.filter (!·.isSyncFor whose) })
  | [], before, h, hh => hR.aside rfl hh.symm rfl rfl
  | x :: l, before, h, hh => by
    by_cases hx : x.isSyncFor whose = true
    · obtain ⟨mode, caller, htask⟩ : ∃ mode caller, x.task = .sync mode caller := by
        unfold Held.isSyncFor at hx
        split at hx
        · simp at hx
        · exact ⟨_, _, by assumption⟩
      have hfree : R h ({ h with held := before ++ l }.free x) := hR.cancel hh htask
      rw [free_with_held] at hfree
      have hrest := cancel_behind whose l before { h.free x with held := before ++ l } rfl
      simp only [List.filter_cons, hx, ↓reduceIte, List.foldl_cons, Bool.not_true,
        Bool.false_eq_true, free_with_held]
      exact hR.trans hfree hrest
    · have hx : x.isSyncFor whose = false := by simpa using hx
      have hrest := cancel_behind whose l (before ++ [x]) h (by simp [hh])
      simp only [List.filter_cons, hx, Bool.false_eq_true, ↓reduceIte, Bool.not_false]
      rwa [List.append_assoc, List.singleton_append] at hrest

theorem cancelled (h : Host τ) (whose : Caller → Bool) : R h (h.cancel whose) :=
  hR.cancel_behind whose h.held [] h rfl

theorem join (h : Host τ) : R h h.join.1 := by
  unfold Host.join
  split
  · exact hR.aside rfl rfl rfl rfl
  · exact hR.trans (hR.cancelled h isCall) (hR.aside rfl rfl rfl rfl)

/-! ## Traffic -/

theorem letThrough {app : App τ} (happ : ∀ h, R h (app h).1) (h : Host τ) (i : Nat)
    (r : Request) (l : Location) (d : Detection) : R h (h.letThrough i r l d app).1 := by
  rcases letThrough_host h i r l d app with he | ⟨v, he⟩ <;> rw [he]
  · exact happ h
  · exact hR.trans (happ h) (hR.report _ i d v)

theorem serve {app : App τ} (happ : ∀ h, R h (app h).1) (h : Host τ) (i : Nat)
    (r : Request) : R h (h.serve i r app).1 := by
  rcases serve_cases h i r app with he | ⟨fault, he⟩ | ⟨c, l, hc, -, he⟩ <;> rw [he]
  · exact happ h
  · exact hR.refl h
  · have hd : R h (h.searched i c r) := hR.noted (hR.detect _ _ hc) _
    unfold examine
    split
    · exact hd
    · split_ifs
      · rw [deny_host]
        exact hR.trans (hR.noted hd _) (hR.report _ i _ _)
      · exact hR.trans hd (hR.letThrough happ _ i r l _)

/-! ## The host's own application -/

theorem adminSync (h : Host τ) (i : Nat) : R h (h.adminSync i).1 := by
  have hsync := hR.sync h i .plain
  unfold Host.adminSync
  rcases heq : h.sync i .plain with ⟨h', x | _ | e | d⟩ <;> rw [heq] at hsync
  · exact hsync
  · exact hsync
  · exact hR.noted hsync _
  · refine hR.noted ?_ _
    rcases hc : h'.client? i with _ | c
    · exact hsync
    · exact hR.marked heq hc

theorem route (i : Nat) (r : Request) (h : Host τ) : R h (Host.route i r h).1 := by
  rcases route_cases h i r with he | ⟨c, -, -, he⟩ <;> rw [he]
  · exact hR.refl h
  · exact hR.adminSync h i

theorem serveOwn (h : Host τ) (i : Nat) (r : Request) : R h (h.serveOwn i r).1 := by
  rw [serveOwn_host]
  exact hR.serve (hR.route i r) h i r

theorem enter (h : Host τ) (i : Nat) (loops : Bool) : R h (h.enter i loops) := by
  unfold Host.enter
  split
  · exact hR.refl h
  · rename_i c hc
    have hnote := hR.noted (hR.refl h) [.hostStarting c.settings.isConfigured c.settings.autoSync]
    have hstart := hR.trans (hR.trans hnote (hR.start _ i)) (hR.settle _)
    dsimp only
    split_ifs
    · exact hR.trans hstart (hR.syncFor _ _ _ _)
    · exact hstart

theorem serveAll (i : Nat) : ∀ (requests : List Request) (h : Host τ),
    R h (h.serveAll i requests).1
  | [], h => hR.refl h
  | r :: rest, h =>
    hR.trans (hR.trans (hR.serveOwn h i r) (hR.settle _)) (serveAll i rest _)

theorem live (h : Host τ) (i : Nat) (loops : Bool) (requests : List Request) :
    R h (h.live i loops requests).1 := by
  have hserved := hR.trans (hR.enter h i loops) (hR.serveAll i requests _)
  exact hR.noted (hR.trans (hR.trans hserved (hR.cancelled _ isLoop)) (hR.stop _ i true)) _

/-! ## Actions -/

/-- The client in use does something of its own. -/
theorem letClient {f : Client τ → Client τ × List Notice × Except Interruption (Reply τ)}
    (hf : ∀ c, h.client? h.current = some c → R h (h.setClient h.current (f c).1)) :
    R h (h.letClient f).1 := by
  unfold Host.letClient
  split
  · exact hR.refl h
  · rename_i c hc
    exact hR.noted (hf c hc) _

theorem detectAndReport (h : Host τ) (userAgent referrer : String) (v : Visit) :
    R h (h.detectAndReport userAgent referrer v).1 := by
  refine hR.letClient fun c hc => ?_
  have hd := hR.detect userAgent referrer hc
  rcases he : c.detect userAgent referrer with ⟨c', notices, e | d⟩ <;> rw [he] at hd
  · exact hd
  · have hr := hR.trans hd (hR.report _ h.current d v)
    simp only [Host.report, client?_setClient_self hc, setClient_setClient] at hr
    exact hR.trans hr (hR.aside rfl rfl rfl rfl)

theorem syncAction (h : Host τ) (mode : SyncMode τ) (behind : Bool) :
    R h (h.syncAction mode behind).1 := by
  unfold Host.syncAction
  split_ifs
  · exact hR.syncBehind h _ mode
  · exact hR.sync h _ mode

theorem perform (h : Host τ) {a : Action τ} (ha : P a) : R h (h.perform a).1 := by
  cases a with
  | detect userAgent referrer => exact hR.letClient fun c hc => hR.detect _ _ hc
  | detectBot userAgent => exact hR.letClient fun c hc => hR.detectBot _ hc
  | detectReferrer referrer => exact hR.refl h
  | report userAgent referrer visit => exact hR.detectAndReport h _ _ _
  | prepare answers => exact hR.aside rfl rfl rfl rfl
  | release => exact hR.release h
  | sync behind => exact hR.syncAction h _ _
  | syncWhenDue now behind => exact hR.syncAction h _ _
  | join => exact hR.join h
  | isDue now => exact hR.refl h
  | markSynced now => exact hR.letClient fun c hc => hR.mark ha hc
  | replace dataset => exact hR.replace h ha
  | advance seconds => exact hR.aside rfl rfl rfl rfl
  | reach noReading noWriting => exact hR.aside rfl rfl rfl rfl
  | readCache =>
    unfold Host.perform
    dsimp only
    split
    · exact hR.refl h
    · rename_i heq
      exact hR.surroundings rfl rfl rfl (Cache.within_get heq)
  | loadCached =>
    unfold Host.perform
    dsimp only
    split
    · exact hR.refl h
    · rename_i heq
      exact hR.surroundings rfl rfl rfl (Cache.within_dataset heq)
  | build settings =>
    have hb := hR.build h ha
    unfold Host.perform
    dsimp only
    split <;> rename_i heq <;> rw [heq] at hb <;> exact hb
  | start => exact hR.start h _
  | stop hasTime => exact hR.stop h _ _
  | flush =>
    unfold Host.perform
    dsimp only
    split
    · exact hR.refl h
    · split_ifs <;> exact hR.refl h
  | send document =>
    unfold Host.perform
    dsimp only
    split
    · exact hR.refl h
    · exact hR.sendNow h _ ha
  | serve request app =>
    have happ : ∀ h : Host τ, R h (app.toApp h).1 := fun h => hR.aside rfl rfl rfl rfl
    exact hR.serve happ h _ _
  | serveOwn request => exact hR.serveOwn h _ _
  | live loops requests => exact hR.live h _ _ _

/-- An action, and what the workers do after it. -/
theorem act (h : Host τ) {a : Action τ} (ha : P a) : R h (h.act a).1 :=
  hR.trans (hR.perform h ha) (hR.settle _)

theorem run (h : Host τ) {actions : List (Action τ)} (ha : ∀ a ∈ actions, P a) :
    R h (h.run actions) := by
  unfold Host.run
  induction actions generalizing h with
  | nil => exact hR.refl h
  | cons a actions ih =>
    exact hR.trans (hR.act h (ha a List.mem_cons_self))
      (ih _ fun b hb => ha b (List.mem_cons_of_mem a hb))

end Course

end Course

/-! ## Steps of all actions -/

theorem steps_build (h : Host τ) (settings : Settings) : Steps h (h.build settings).1 := by
  unfold build
  split
  · exact .refl
  · rename_i c cache notices hb
    exact .head (.build ⟨_, _, _, _, _, hb⟩) (.single (.surroundings rfl rfl))

theorem steps_replace (h : Host τ) (d : Dataset) : Steps h (h.replace d).1 := by
  unfold replace
  split
  · exact .refl
  · rename_i c hc
    exact .head (.install d hc) (.single (.surroundings rfl rfl))

omit [TimeScale τ] in
theorem sendNow_same (h : Host τ) (c : Client τ) (document : Json) :
    (h.sendNow c document).1.clients = h.clients ∧ (h.sendNow c document).1.held = h.held := by
  unfold sendNow
  split
  · exact ⟨rfl, rfl⟩
  · split <;> rename_i heq <;> simp only [askNow, Prod.mk.injEq] at heq <;> rw [← heq.1]
    · exact ⟨rfl, rfl⟩
    · exact ⟨rfl, rfl⟩

/-- Whatever a host is asked to do comes down to steps. -/
theorem steps_course : Course (fun _ : Action τ => True) Steps where
  refl _ := .refl
  trans := .trans
  surroundings hc hh _ _ := .single (.surroundings hc hh)
  detect userAgent referrer hc := .single (.detect userAgent referrer hc)
  detectBot userAgent hc := .single (.detectBot userAgent hc)
  report h i d v := .single (.report h i d v)
  start h i := .single (.start h i)
  stop h i hasTime := .single (.stop h i hasTime)
  send hc ht := .single (.send hc ht)
  sent hx ht := .single (.sent hx ht)
  call h i mode caller := .single (.call h i mode caller)
  synced hx ht := .single (.synced hx ht)
  cancel hx ht := .single (.cancel hx ht)
  marked {h h' i c d} hsync hc := by
    have hcall : Steps h (h.sync i .plain).1 := .single (.call h i .plain .host)
    rw [hsync] at hcall
    exact hcall.tail (.mark _ hc)
  build h _ _ := steps_build h _
  mark _ hc := .single (.mark _ hc)
  replace h _ _ := steps_replace h _
  sendNow h c document _ := by
    obtain ⟨hc, hh⟩ := sendNow_same h c document
    exact .single (.surroundings hc hh)

theorem steps_foldl {β : Type} {f : Host τ → β → Host τ} (hf : ∀ h x, Steps h (f h x))
    (xs : List β) (h : Host τ) : Steps h (xs.foldl f h) :=
  foldl_of_step steps_course.refl steps_course.trans hf xs h

theorem steps_workOn (h : Host τ) (i : Nat) : Steps h (h.workOn i) := steps_course.workOn h i

theorem steps_resume {h : Host τ} {before after : List (Held τ)} {x : Held τ}
    (hx : h.held = before ++ x :: after) :
    Steps h ({ h with held := before ++ after }.resume x) := steps_course.resume hx

theorem steps_cancel (h : Host τ) (whose : Caller → Bool) : Steps h (h.cancel whose) :=
  steps_course.cancelled h whose

theorem steps_act (h : Host τ) (a : Action τ) : Steps h (h.act a).1 := steps_course.act h trivial

theorem steps_run (h : Host τ) (actions : List (Action τ)) : Steps h (h.run actions) :=
  steps_course.run h fun _ _ => trivial

end Host

end BotSentry
