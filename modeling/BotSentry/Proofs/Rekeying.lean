import BotSentry.Host.Action
import Mathlib.Tactic.Common

/-!
# Another key

What a client and its host do does not depend on the key, as long as there is one: to give another key
to all clients that have one (`Host.withKey`) and then to do something is the same as to do it and then
to give the other key, also to the requests that have been sent. There is one lemma for each function.
The pages of the host that ask for the key are left out, since what they answer depends on it.
-/

namespace BotSentry

/-- A key of the service. -/
structure Key where
  text : String
  nonempty : text.isEmpty = false

/-- This key in the place of another one. Where there is none, there still is none. -/
def Key.insteadOf (k : Key) (key : String) : String := if key.isEmpty then key else k.text

theorem Key.isEmpty_insteadOf (k : Key) (key : String) :
    (k.insteadOf key).isEmpty = key.isEmpty := by
  unfold insteadOf
  rcases hkey : key.isEmpty with _ | _
  · exact k.nonempty
  · exact hkey

def Settings.withKey (k : Key) (s : Settings) : Settings := { s with apiKey := k.insteadOf s.apiKey }

theorem Settings.isConfigured_withKey (k : Key) (s : Settings) :
    (s.withKey k).isConfigured = s.isConfigured := congrArg not (k.isEmpty_insteadOf s.apiKey)

def Outbound.withKey (k : Key) (r : Outbound) : Outbound := { r with key := k.insteadOf r.key }

def Peer.withKey (k : Key) (p : Peer) : Peer := { p with seen := p.seen.map (·.withKey k) }

theorem Peer.take_withKey (k : Key) (p : Peer) (r : Outbound) :
    (p.withKey k).take (r.withKey k) = ((p.take r).1, (p.take r).2.withKey k) := by
  obtain ⟨answers, seen, letsGo⟩ := p
  cases answers <;> simp [withKey, take]

variable {τ : Type}

/-! ## Clients -/

namespace Client

variable (k : Key) (c : Client τ)

def withKey : Client τ := { c with settings := c.settings.withKey k }

theorem isConfigured_withKey :
    (c.withKey k).settings.isConfigured = c.settings.isConfigured :=
  c.settings.isConfigured_withKey k

theorem patternsRequest_withKey :
    (c.withKey k).patternsRequest = c.patternsRequest.withKey k := rfl

theorem eventRequest_withKey (document : Json) :
    (c.withKey k).eventRequest document = (c.eventRequest document).withKey k := rfl

theorem detect_withKey (userAgent referrer : String) : (c.withKey k).detect userAgent referrer
    = ((c.detect userAgent referrer).1.withKey k, (c.detect userAgent referrer).2) := rfl

theorem syncObstacle?_withKey : (c.withKey k).syncObstacle? = c.syncObstacle? := by
  unfold syncObstacle?
  rw [isConfigured_withKey]
  rfl

theorem conclude_withKey (mode : SyncMode τ) (result : SyncResult) :
    (c.withKey k).conclude mode result
      = ((c.conclude mode result).1.withKey k, (c.conclude mode result).2) := by
  unfold conclude
  rcases mode with _ | now <;> rcases result with e | d <;> rfl

theorem start_withKey : (c.withKey k).start = (c.start.1.withKey k, c.start.2) := by
  unfold start
  rw [isConfigured_withKey]
  rfl

variable [TimeScale τ]

theorem build_withKey (s : Settings) (cache : Cache τ) (now : τ) :
    build (s.withKey k) cache now
      = (build s cache now).map fun (c, cache, notices) => (c.withKey k, cache, notices) := by
  unfold build
  split
  · rfl
  · dsimp only
    split <;> rfl

theorem report_withKey (d : Detection) (v : Visit) (now : τ) :
    (c.withKey k).report d v now = ((c.report d v now).1.withKey k, (c.report d v now).2) := by
  unfold report
  simp only [isConfigured_withKey, show (c.withKey k).event = c.event from rfl]
  split_ifs
  · rfl
  · split <;> rfl

theorem wantsSync_withKey (now : τ) : (c.withKey k).wantsSync now = c.wantsSync now := by
  unfold wantsSync
  rw [isConfigured_withKey]
  rfl

theorem endSync_withKey (cache : Cache τ) (outcome : Outcome) (now : τ) :
    (c.withKey k).endSync cache outcome now
      = ((c.endSync cache outcome now).1.withKey k, (c.endSync cache outcome now).2) := by
  unfold endSync
  rcases outcome.receive (TimeScale.toDateTime now) with x | e | d <;> rfl

end Client

/-! ## Hosts -/

namespace Host

/-- The host with another key for all clients and in all requests that have one. -/
def withKey (k : Key) (h : Host τ) : Host τ :=
  { h with peer := h.peer.withKey k, clients := h.clients.map (·.withKey k) }

section Host

variable (k : Key) (h : Host τ) (i : Nat) (c : Client τ)

theorem client?_withKey : (h.withKey k).client? i = (h.client? i).map (·.withKey k) :=
  List.getElem?_map ..

theorem setClient_withKey :
    (h.withKey k).setClient i (c.withKey k) = (h.setClient i c).withKey k := by
  simp only [setClient, withKey, List.map_set]

theorem setReporter_withKey (reporter : Reporter) :
    (h.withKey k).setClient i { c.withKey k with reporter }
      = (h.setClient i { c with reporter }).withKey k := setClient_withKey k h i { c with reporter }

theorem note_withKey (notices : List Notice) :
    (h.withKey k).note notices = (h.note notices).withKey k := rfl

theorem current_withKey : (h.withKey k).current = h.current := by
  simp only [current, withKey, List.length_map]

theorem ask_withKey (task : Task τ) (r : Outbound) : (h.withKey k).ask i task (r.withKey k)
    = ((h.ask i task r).1.withKey k, (h.ask i task r).2) := by
  unfold ask
  simp only [show (h.withKey k).peer = h.peer.withKey k from rfl, Peer.take_withKey]
  split_ifs <;> rfl

theorem askNow_withKey (r : Outbound) : (h.withKey k).askNow (r.withKey k)
    = ((h.askNow r).1.withKey k, (h.askNow r).2) := by
  unfold askNow
  simp only [show (h.withKey k).peer = h.peer.withKey k from rfl, Peer.take_withKey]
  rfl

/-! ### Workers -/

theorem finishEvent_withKey (worker : Nat) (outcome : Outcome) :
    (h.withKey k).finishEvent i worker outcome = (h.finishEvent i worker outcome).withKey k := by
  unfold finishEvent
  rw [client?_withKey]
  rcases h.client? i with _ | c
  · rfl
  · simp only [Option.map_some, setReporter_withKey, note_withKey]
    rfl

theorem sendEvent_withKey (worker : Nat) (e : Event) :
    (h.withKey k).sendEvent i worker (c.withKey k) e
      = (h.sendEvent i worker c e).withKey k := by
  unfold sendEvent
  split
  · exact setReporter_withKey k h i c _
  · rw [setClient_withKey, Client.eventRequest_withKey, ask_withKey]
    rcases (h.setClient i c).ask i (.event worker) (c.eventRequest e.toJson) with ⟨h', _ | outcome⟩
    · rfl
    · exact finishEvent_withKey k h' i worker outcome

theorem runWorkers_withKey : ∀ (n : Nat) (h : Host τ),
    (h.withKey k).runWorkers i n = (h.runWorkers i n).withKey k
  | 0, _ => rfl
  | n + 1, h => by
    unfold runWorkers
    rw [client?_withKey]
    rcases h.client? i with _ | c
    · rfl
    · simp only [Option.map_some, show (c.withKey k).reporter = c.reporter from rfl]
      rcases c.reporter.take? with _ | ⟨worker, e, r⟩
      · rfl
      · have hsend := sendEvent_withKey k h i { c with reporter := r } worker e
        exact (congrArg (runWorkers · i n) hsend).trans (runWorkers_withKey n _)

theorem workOn_withKey : (h.withKey k).workOn i = (h.workOn i).withKey k := by
  unfold workOn
  rw [client?_withKey]
  rcases h.client? i with _ | c
  · rfl
  · exact runWorkers_withKey k i _ h

theorem foldl_withKey {β : Type} {f : Host τ → β → Host τ}
    (hf : ∀ h x, f (h.withKey k) x = (f h x).withKey k) (xs : List β) (h : Host τ) :
    xs.foldl f (h.withKey k) = (xs.foldl f h).withKey k := by
  induction xs generalizing h with
  | nil => rfl
  | cons x xs ih => rw [List.foldl_cons, List.foldl_cons, hf, ih]

theorem settle_withKey : (h.withKey k).settle = h.settle.withKey k := by
  unfold settle
  rw [show (h.withKey k).clients.length = h.clients.length from List.length_map _]
  exact foldl_withKey k (fun h i => workOn_withKey k h i) _ h

theorem sendNow_withKey (document : Json) : (h.withKey k).sendNow (c.withKey k) document
    = ((h.sendNow c document).1.withKey k, (h.sendNow c document).2) := by
  unfold sendNow
  split
  · rfl
  · rw [Client.eventRequest_withKey, askNow_withKey]
    rcases h.askNow (c.eventRequest document) with ⟨h', _ | outcome⟩ <;> rfl

theorem start_withKey : (h.withKey k).start i = (h.start i).withKey k := by
  unfold start
  rw [client?_withKey]
  rcases h.client? i with _ | c
  · rfl
  · simp only [Option.map_some, Client.start_withKey, setClient_withKey, note_withKey]

theorem stop_withKey (hasTime : Bool) : (h.withKey k).stop i hasTime = (h.stop i hasTime).withKey k := by
  unfold stop
  rw [client?_withKey]
  rcases h.client? i with _ | c
  · rfl
  · simp only [Option.map_some, show (c.withKey k).reporter = c.reporter from rfl]
    split_ifs
    · rfl
    all_goals
      simp only [setReporter_withKey, note_withKey]
      rfl

/-! ### Synchronisation -/

theorem deliver_withKey (caller : Caller) (result : SyncEnd) :
    (h.withKey k).deliver caller result = (h.deliver caller result).withKey k := by
  unfold deliver
  rcases caller with _ | number | _
  · rfl
  · rfl
  · rcases result with x | r <;> rfl

theorem free_withKey (x : Held τ) : (h.withKey k).free x = (h.free x).withKey k := by
  unfold free
  rw [client?_withKey]
  rcases h.client? x.client with _ | c
  · rfl
  · exact setClient_withKey k h x.client { c with syncing := false }

theorem cancel_withKey (whose : Caller → Bool) :
    (h.withKey k).cancel whose = (h.cancel whose).withKey k :=
  foldl_withKey k (fun h x => free_withKey k h x) _
    { h with held := h.held.filter (!·.isSyncFor whose) }

theorem join_withKey : (h.withKey k).join = (h.join.1.withKey k, h.join.2) := by
  unfold join
  rw [show (h.withKey k).calls = h.calls from rfl]
  split
  · rfl
  · rw [cancel_withKey]
    rfl

variable [TimeScale τ]

theorem build_withKey (s : Settings) :
    (h.withKey k).build (s.withKey k) = ((h.build s).1.withKey k, (h.build s).2) := by
  unfold build
  rw [show Client.build (s.withKey k) (h.withKey k).cache (h.withKey k).clock = _ from
    Client.build_withKey k s h.cache h.clock]
  rcases Client.build s h.cache h.clock with x | ⟨c, cache, notices⟩
  · rfl
  · simp [Except.map, withKey, note]

theorem endSync_withKey (mode : SyncMode τ) (outcome : Outcome) :
    (h.withKey k).endSync i mode outcome
      = ((h.endSync i mode outcome).1.withKey k, (h.endSync i mode outcome).2) := by
  unfold endSync
  rw [client?_withKey]
  rcases h.client? i with _ | c
  · rfl
  · have hset : ∀ (cache : Cache τ) (notices : List Notice) (c' : Client τ),
        ({ h.withKey k with cache }.note notices).setClient i (c'.withKey k)
          = (({ h with cache }.note notices).setClient i c').withKey k :=
      fun cache notices => setClient_withKey k ({ h with cache }.note notices) i
    simp only [Option.map_some, show (c.withKey k).endSync (h.withKey k).cache outcome
      (h.withKey k).clock = _ from Client.endSync_withKey k c h.cache outcome h.clock]
    rcases c.endSync h.cache outcome h.clock with ⟨c', cache, notices, x | result⟩
    · exact congrArg (fun h : Host τ => (h, Except.error x)) (hset cache notices c')
    · simp only [Client.conclude_withKey]
      exact congrArg (fun h : Host τ => (h.note (c'.conclude mode result).2, Except.ok (some result)))
        (hset cache notices (c'.conclude mode result).1)

theorem requestSync_withKey (mode : SyncMode τ) (caller : Caller) :
    (h.withKey k).requestSync i (c.withKey k) mode caller
      = ((h.requestSync i c mode caller).1.withKey k, (h.requestSync i c mode caller).2) := by
  have hset : (h.withKey k).setClient i { c.withKey k with syncing := true }
      = (h.setClient i { c with syncing := true }).withKey k :=
    setClient_withKey k h i { c with syncing := true }
  unfold requestSync
  rw [hset, Client.patternsRequest_withKey]
  simp only [askNow_withKey, ask_withKey]
  cases caller with
  | host =>
    dsimp only
    rcases (h.setClient i { c with syncing := true }).askNow c.patternsRequest with ⟨h', _ | outcome⟩
    · simp only [setClient_withKey]
    · simp only [endSync_withKey]
  | call | loop =>
    dsimp only
    generalize (h.setClient i { c with syncing := true }).ask i _ c.patternsRequest = asked
    rcases asked with ⟨h', _ | outcome⟩
    · rfl
    · simp only [endSync_withKey]

theorem callSync_withKey (mode : SyncMode τ) (caller : Caller) :
    (h.withKey k).callSync i mode caller
      = ((h.callSync i mode caller).1.withKey k, (h.callSync i mode caller).2) := by
  unfold callSync
  rw [client?_withKey]
  rcases h.client? i with _ | c
  · rfl
  · cases mode with
    | plain =>
      simp only [Option.map_some, Client.syncObstacle?_withKey]
      rcases c.syncObstacle? with _ | e
      · exact requestSync_withKey k h i c .plain caller
      · rfl
    | whenDue now =>
      simp only [Option.map_some, Client.wantsSync_withKey]
      split_ifs
      · exact requestSync_withKey k (h.note _) i c _ caller
      · rfl

theorem sync_withKey (mode : SyncMode τ) :
    (h.withKey k).sync i mode = ((h.sync i mode).1.withKey k, (h.sync i mode).2) := by
  simp only [sync, callSync_withKey]

theorem syncFor_withKey (mode : SyncMode τ) (caller : Caller) :
    (h.withKey k).syncFor i mode caller = (h.syncFor i mode caller).withKey k := by
  unfold syncFor
  rw [callSync_withKey]
  rcases h.callSync i mode caller with ⟨h', _ | result⟩
  · rfl
  · exact deliver_withKey k h' caller result

theorem syncBehind_withKey (mode : SyncMode τ) :
    (h.withKey k).syncBehind i mode = (h.syncBehind i mode).withKey k :=
  syncFor_withKey k { h with calls := h.calls ++ [none] } i mode _

theorem resume_withKey (x : Held τ) : (h.withKey k).resume x = (h.resume x).withKey k := by
  unfold resume
  split
  · rw [finishEvent_withKey, workOn_withKey]
  · simp only [endSync_withKey, deliver_withKey]

theorem release_withKey : (h.withKey k).release = h.release.withKey k := by
  have hfold := foldl_withKey k (fun h x => resume_withKey k h x) h.held
    { h with held := [], peer := { h.peer with letsGo := true } }
  unfold release
  dsimp only
  rw [show (h.withKey k).held = h.held from rfl]
  exact congrArg (fun h : Host τ => { h with peer := { h.peer with letsGo := false } }) hfold

/-! ### Traffic -/

theorem report_withKey (d : Detection) (v : Visit) :
    (h.withKey k).report i d v = ((h.report i d v).1.withKey k, (h.report i d v).2) := by
  unfold report
  rw [client?_withKey]
  rcases h.client? i with _ | c
  · rfl
  · simp only [Option.map_some, show (h.withKey k).clock = h.clock from rfl,
      Client.report_withKey, setClient_withKey, note_withKey]

theorem deny_withKey (r : Request) (l : Location) (d : Detection) :
    (h.withKey k).deny i r l d = ((h.deny i r l d).1.withKey k, (h.deny i r l d).2) := by
  unfold deny
  dsimp only
  rw [note_withKey, report_withKey]
  rcases (h.note _).report i d (r.visit l 403 0) with ⟨h', x | b⟩ <;> rfl

/-- An application that does not depend on the key either. -/
def IgnoresKey (k : Key) (app : App τ) : Prop :=
  ∀ h, app (h.withKey k) = ((app h).1.withKey k, (app h).2)

variable {k} {app : App τ}

theorem IgnoresKey.letThrough (happ : IgnoresKey k app) (h : Host τ) (i : Nat) (r : Request)
    (l : Location) (d : Detection) : (h.withKey k).letThrough i r l d app
      = ((h.letThrough i r l d app).1.withKey k, (h.letThrough i r l d app).2) := by
  unfold Host.letThrough
  simp only [happ h]
  rcases app h with ⟨h', x | response⟩ <;> dsimp only <;> split_ifs
  · rfl
  · rw [show (h'.withKey k).timer = h'.timer from rfl, report_withKey,
      show (h.withKey k).timer = h.timer from rfl]
    rcases h'.report i d (r.visit l 500 (milliseconds (h'.timer - h.timer))) with ⟨h'', x | b⟩ <;> rfl
  · rfl
  · rw [show (h'.withKey k).timer = h'.timer from rfl, report_withKey,
      show (h.withKey k).timer = h.timer from rfl]
    rcases h'.report i d (r.visit l response.status (milliseconds (h'.timer - h.timer))) with
      ⟨h'', x | b⟩ <;> rfl

theorem IgnoresKey.serve (happ : IgnoresKey k app) (h : Host τ) (i : Nat) (r : Request) :
    (h.withKey k).serve i r app
      = ((h.serve i r app).1.withKey k, (h.serve i r app).2) := by
  unfold Host.serve
  simp only [happ h, client?_withKey]
  split_ifs
  · rfl
  · split
    · rfl
    · rcases h.client? i with _ | c
      · rfl
      · simp only [Option.map_some, Client.isConfigured_withKey, Client.detect_withKey,
          show (c.withKey k).settings.excludes = c.settings.excludes from rfl]
        split_ifs
        · rfl
        · rcases c.detect r.userAgent (r.referrer?.getD "") with ⟨c', notices, x | d⟩
          · simp only [setClient_withKey, note_withKey]
          · simp only [setClient_withKey, note_withKey]
            split_ifs
            · exact deny_withKey k _ i r _ d
            · exact happ.letThrough _ i r _ d

end Host

end Host

end BotSentry
