import BotSentry.Proofs.Rekeying
import BotSentry.Proofs.SyncEnds

/-!
# The key is kept secret

Two sessions that differ in the key alone are the same to everybody who does not see the requests to the
service, and in those the keys are the only difference (`key_does_not_show`). For all the actions of a
host this is what its functions do to another key, one after the other (`act_withKey`, `run_withKey`).
Only the pages of the host that ask for the key are no part of it (`Action.IsPublic`): they compare it
with the one in the request.
-/

namespace BotSentry

/-- A request for no page that asks for the key. -/
def Request.IsPublic (r : Request) : Prop :=
  ∀ page, Route.ofPath? r.path.toList = some page → page = .health

variable {τ : Type} [TimeScale τ]

namespace Action

def IsPublic : Action τ → Prop
  | .serveOwn r => r.IsPublic
  | .live _ requests => ∀ r ∈ requests, r.IsPublic
  | _ => True

/-- The action with another key for the client that it builds, if that has one. -/
def withKey (k : Key) : Action τ → Action τ
  | .build settings => .build (settings.withKey k)
  | a => a

end Action

namespace Host

variable (k : Key) (h : Host τ) (i : Nat)

/-! ## The host's own application -/

theorem ignoresKey_route {r : Request} (hr : r.IsPublic) : IgnoresKey k (route (τ := τ) i r) := by
  intro h
  unfold route
  rcases hpage : Route.ofPath? r.path.toList with _ | page
  · dsimp only
    split <;> rfl
  · obtain rfl := hr page hpage
    dsimp only
    split_ifs <;> rfl

theorem serveOwn_withKey {r : Request} (hr : r.IsPublic) : (h.withKey k).serveOwn i r
    = ((h.serveOwn i r).1.withKey k, (h.serveOwn i r).2) := by
  unfold serveOwn
  rw [(ignoresKey_route k i hr).serve]
  dsimp only
  split <;> rfl

theorem serveAll_withKey : ∀ (requests : List Request) (h : Host τ),
    (∀ r ∈ requests, r.IsPublic) → (h.withKey k).serveAll i requests
      = ((h.serveAll i requests).1.withKey k, (h.serveAll i requests).2)
  | [], _, _ => rfl
  | r :: rest, h, hr => by
    have hrest := serveAll_withKey rest (h.serveOwn i r).1.settle
      fun r hmem => hr r (List.mem_cons_of_mem _ hmem)
    simp only [serveAll, serveOwn_withKey k h i (hr r List.mem_cons_self), settle_withKey, hrest]

theorem enter_withKey (loops : Bool) :
    (h.withKey k).enter i loops = (h.enter i loops).withKey k := by
  unfold enter
  rw [client?_withKey]
  rcases h.client? i with _ | c
  · rfl
  · simp only [Option.map_some, Client.isConfigured_withKey, note_withKey, start_withKey,
      settle_withKey, show (c.withKey k).settings.autoSync = c.settings.autoSync from rfl]
    split_ifs
    · exact syncFor_withKey k _ i _ _
    · rfl

omit [TimeScale τ] in
theorem leave_withKey : (h.withKey k).leave i = (h.leave i).withKey k := by
  simp only [leave, cancel_withKey, stop_withKey, note_withKey]

omit [TimeScale τ] in
theorem isRunning_withKey : (h.withKey k).isRunning i = h.isRunning i := by
  unfold isRunning
  rw [client?_withKey]
  rcases h.client? i with _ | c <;> rfl

theorem live_withKey (loops : Bool) {requests : List Request} (hr : ∀ r ∈ requests, r.IsPublic) :
    (h.withKey k).live i loops requests
      = ((h.live i loops requests).1.withKey k, (h.live i loops requests).2) := by
  simp only [live, enter_withKey, serveAll_withKey k i requests _ hr, leave_withKey,
    isRunning_withKey]

/-! ## Actions -/

omit [TimeScale τ] in
theorem letClient_withKey {f : Client τ → Client τ × List Notice × Except Interruption (Reply τ)}
    (hf : ∀ c, f (c.withKey k) = ((f c).1.withKey k, (f c).2)) :
    (h.withKey k).letClient f = ((h.letClient f).1.withKey k, (h.letClient f).2) := by
  unfold letClient
  rw [current_withKey, client?_withKey]
  rcases h.client? h.current with _ | c
  · rfl
  · simp only [Option.map_some, hf, setClient_withKey, note_withKey]

omit [TimeScale τ] in
theorem askClient_withKey {f : Client τ → Reply τ} (hf : ∀ c, f (c.withKey k) = f c) :
    (h.withKey k).askClient f = ((h.askClient f).1.withKey k, (h.askClient f).2) := by
  unfold askClient
  rw [current_withKey, client?_withKey]
  rcases h.client? h.current with _ | c
  · rfl
  · simp only [Option.map_some, hf]

theorem replace_withKey (d : Dataset) :
    (h.withKey k).replace d = ((h.replace d).1.withKey k, (h.replace d).2) := by
  unfold replace
  rw [current_withKey, client?_withKey]
  rcases h.client? h.current with _ | c
  · rfl
  · have hset := setClient_withKey k { h with cache :=
        (h.cache.keep d (TimeScale.ofSeconds c.settings.cacheTtl) h.clock).1 } h.current
      { c with snapshot := c.snapshot.install d }
    exact congrArg (fun h' : Host τ => (h'.note
      (h.cache.keep d (TimeScale.ofSeconds c.settings.cacheTtl) h.clock).2,
        Except.ok (Reply.version (c.snapshot.install d).dataset.version))) hset

theorem detectAndReport_withKey (userAgent referrer : String) (v : Visit) :
    (h.withKey k).detectAndReport userAgent referrer v
      = ((h.detectAndReport userAgent referrer v).1.withKey k,
        (h.detectAndReport userAgent referrer v).2) := by
  refine letClient_withKey k h fun c => ?_
  rw [Client.detect_withKey]
  rcases c.detect userAgent referrer with ⟨c', notices, x | d⟩
  · rfl
  · simp only [show (h.withKey k).clock = h.clock from rfl, Client.report_withKey]

theorem syncAction_withKey (mode : SyncMode τ) (behind : Bool) :
    (h.withKey k).syncAction mode behind
      = ((h.syncAction mode behind).1.withKey k, (h.syncAction mode behind).2) := by
  unfold syncAction
  simp only [current_withKey, syncBehind_withKey, sync_withKey]
  split_ifs <;> rfl

theorem perform_withKey {a : Action τ} (ha : a.IsPublic) : (h.withKey k).perform (a.withKey k)
    = ((h.perform a).1.withKey k, (h.perform a).2) := by
  cases a with
  | detect userAgent referrer =>
    simp only [Action.withKey, perform]
    exact letClient_withKey k h fun c => rfl
  | detectBot userAgent =>
    simp only [Action.withKey, perform]
    exact letClient_withKey k h fun c => rfl
  | detectReferrer referrer => exact askClient_withKey k h fun c => rfl
  | report userAgent referrer visit => exact detectAndReport_withKey k h _ _ _
  | prepare answers => rfl
  | release => exact congrArg (·, _) (release_withKey k h)
  | sync behind => exact syncAction_withKey k h _ _
  | syncWhenDue now behind => exact syncAction_withKey k h _ _
  | join => simp only [Action.withKey, perform, join_withKey]
  | isDue now => exact askClient_withKey k h fun c => rfl
  | markSynced now =>
    simp only [Action.withKey, perform]
    exact letClient_withKey k h fun c => rfl
  | replace dataset => exact replace_withKey k h dataset
  | advance seconds => rfl
  | reach noReading noWriting => rfl
  | readCache =>
    simp only [Action.withKey, perform, show (h.withKey k).cache = h.cache from rfl,
      show (h.withKey k).clock = h.clock from rfl]
    split <;> rfl
  | loadCached =>
    simp only [Action.withKey, perform, show (h.withKey k).cache = h.cache from rfl,
      show (h.withKey k).clock = h.clock from rfl]
    split <;> rfl
  | build settings =>
    simp only [Action.withKey, perform, build_withKey]
    rcases h.build settings with ⟨h', x | u⟩
    · rfl
    · exact askClient_withKey k h' fun c => rfl
  | start => simp only [Action.withKey, perform, current_withKey, start_withKey]
  | stop hasTime => simp only [Action.withKey, perform, current_withKey, stop_withKey]
  | flush =>
    simp only [Action.withKey, perform, current_withKey, client?_withKey]
    rcases h.client? h.current with _ | c
    · rfl
    · simp only [Option.map_some, show (c.withKey k).reporter = c.reporter from rfl]
      split_ifs <;> rfl
  | send document =>
    simp only [Action.withKey, perform, current_withKey, client?_withKey]
    rcases h.client? h.current with _ | c
    · rfl
    · simp only [Option.map_some, sendNow_withKey]
  | serve request app =>
    have happ : IgnoresKey k (app.toApp (τ := τ)) := fun h => rfl
    simp only [Action.withKey, perform, current_withKey, happ.serve]
  | serveOwn request =>
    simp only [Action.withKey, perform, current_withKey, serveOwn_withKey k h h.current ha]
  | live loops requests =>
    simp only [Action.withKey, perform, current_withKey, live_withKey k h h.current loops ha]

/-- An action with another key, and then what the workers do. -/
theorem act_withKey {a : Action τ} (ha : a.IsPublic) : (h.withKey k).act (a.withKey k)
    = ((h.act a).1.withKey k, (h.act a).2) := by
  simp only [act, perform_withKey k h ha, settle_withKey]

/-- The replies to some actions, one after the other. -/
def replies (h : Host τ) : List (Action τ) → List (Except Interruption (Reply τ))
  | [] => []
  | a :: actions => (h.act a).2 :: (h.act a).1.replies actions

variable {actions : List (Action τ)}

theorem run_withKey (ha : ∀ a ∈ actions, a.IsPublic) :
    (h.withKey k).run (actions.map (·.withKey k)) = (h.run actions).withKey k := by
  unfold run
  induction actions generalizing h with
  | nil => rfl
  | cons a actions ih =>
    rw [List.map_cons, List.foldl_cons, List.foldl_cons, act_withKey k h (ha a List.mem_cons_self)]
    exact ih _ fun b hb => ha b (List.mem_cons_of_mem a hb)

theorem replies_withKey (ha : ∀ a ∈ actions, a.IsPublic) :
    (h.withKey k).replies (actions.map (·.withKey k)) = h.replies actions := by
  induction actions generalizing h with
  | nil => rfl
  | cons a actions ih =>
    simp only [List.map_cons, replies, act_withKey k h (ha a List.mem_cons_self)]
    rw [ih _ fun b hb => ha b (List.mem_cons_of_mem a hb)]

/-! ## What the key shows in -/

/-- Nothing differs but keys: in the settings of the clients, and in the requests that have been sent. -/
structure SameButKeys (h h' : Host τ) : Prop where
  clock : h'.clock = h.clock
  timer : h'.timer = h.timer
  cache : h'.cache = h.cache
  held : h'.held = h.held
  calls : h'.calls = h.calls
  notices : h'.notices = h.notices
  answers : h'.peer.answers = h.peer.answers
  letsGo : h'.peer.letsGo = h.peer.letsGo
  clients : h'.clients.map (fun c => { c with settings := { c.settings with apiKey := "" } })
    = h.clients.map fun c => { c with settings := { c.settings with apiKey := "" } }
  seen : h'.peer.seen.map (fun r => { r with key := "" })
    = h.peer.seen.map fun r => { r with key := "" }

omit [TimeScale τ] in
theorem sameButKeys_withKey (k₁ k₂ : Key) : SameButKeys (h.withKey k₁) (h.withKey k₂) where
  clock := rfl
  timer := rfl
  cache := rfl
  held := rfl
  calls := rfl
  notices := rfl
  answers := rfl
  letsGo := rfl
  clients := by
    simp only [withKey, List.map_map]
    rfl
  seen := by
    simp only [withKey, Peer.withKey, List.map_map]
    rfl

/-- Two sessions with the same actions whose settings differ in the key alone, and none of whose requests
goes to a page that asks for it, cannot be told apart by anybody but the service: all replies are the same,
and in the end nothing differs but the keys of the clients and those in the requests that went out. -/
theorem key_does_not_show (k₁ k₂ : Key) (ha : ∀ a ∈ actions, a.IsPublic) :
    (h.withKey k₁).replies (actions.map (·.withKey k₁))
        = (h.withKey k₂).replies (actions.map (·.withKey k₂))
      ∧ SameButKeys ((h.withKey k₁).run (actions.map (·.withKey k₁)))
        ((h.withKey k₂).run (actions.map (·.withKey k₂))) := by
  rw [replies_withKey k₁ h ha, replies_withKey k₂ h ha, run_withKey k₁ h ha, run_withKey k₂ h ha]
  exact ⟨rfl, sameButKeys_withKey _ k₁ k₂⟩

/-- A synchronisation, a question whether the host is well, and another client. -/
def publicActions : List (Action Micros) := [
  .sync false, .serveOwn { path := "/health" }, .build { apiKey := "key" }, .start, .stop true]

/-- Two sessions with two keys: the service sees one key or the other, and nobody sees a difference. -/
theorem one_key_or_another :
    (∀ a ∈ publicActions, a.IsPublic)
      ∧ ((answering []).withKey ⟨"one", rfl⟩).replies (publicActions.map (·.withKey ⟨"one", rfl⟩))
        = ((answering []).withKey ⟨"other", rfl⟩).replies
          (publicActions.map (·.withKey ⟨"other", rfl⟩))
      ∧ (((answering []).withKey ⟨"one", rfl⟩).run
        (publicActions.map (·.withKey ⟨"one", rfl⟩))).peer.seen.map (·.key) = ["one"]
      ∧ (((answering []).withKey ⟨"other", rfl⟩).run
        (publicActions.map (·.withKey ⟨"other", rfl⟩))).peer.seen.map (·.key) = ["other"] := by
  have hhealth : ({ path := "/health" } : Request).IsPublic := by
    have hroute : Route.ofPath? "/health".toList = some .health := by decide
    intro page hpage
    exact Option.some.inj (hpage.symm.trans hroute)
  have hpublic : ∀ a ∈ publicActions, a.IsPublic := by
    simp [publicActions, Action.IsPublic, hhealth]
  exact ⟨hpublic, (key_does_not_show (answering []) ⟨"one", rfl⟩ ⟨"other", rfl⟩ hpublic).1, rfl, rfl⟩

end Host

end BotSentry
