import BotSentry.Proofs.Moves
import BotSentry.Proofs.Provenance

/-!
# The times of a client

When the next synchronisation of a client is due is counted from its own time, and from the times that
its synchronisations under way are going to set (`Host.HasTime`). While the clock stands still, nothing
but the present comes up among them (`Host.Keeps`), as long as nobody means another time. So each time
of a client after a run is one that it had before, or the clock has shown it on the way
(`Host.ClockStays.time_run`).
-/

namespace BotSentry

variable {τ : Type} [TimeScale τ]

namespace Host

/-- A client counts from a time, or is going to do so if a synchronisation under way succeeds. -/
inductive HasTime (i : Nat) (h : Host τ) : τ → Prop
  | last {c : Client τ} : h.client? i = some c → HasTime i h c.lastSync
  | awaited {x : Held τ} {now : τ} {caller : Caller} : x ∈ h.held → x.client = i →
      x.task = .sync (.whenDue now) caller → HasTime i h now

/-- The clock stands still, a client is still there, and it has no new time but the present. -/
structure Keeps (i : Nat) (h h' : Host τ) : Prop where
  clock : h'.clock = h.clock
  client : ∀ {c}, h.client? i = some c → ∃ c', h'.client? i = some c' ∧ c'.settings = c.settings
  time : ∀ {c t}, h.client? i = some c → HasTime i h' t → HasTime i h t ∨ t = h.clock

section Keeps

variable {h h' h'' : Host τ} {i j : Nat} {c c' : Client τ}

section Basic

omit [TimeScale τ]

theorem Keeps.refl (h : Host τ) : Keeps i h h := ⟨rfl, fun hc => ⟨_, hc, rfl⟩, fun _ => .inl⟩

theorem Keeps.trans (hk : Keeps i h h') (hk' : Keeps i h' h'') : Keeps i h h'' where
  clock := hk'.clock.trans hk.clock
  client hc := by
    obtain ⟨c', hc', hs⟩ := hk.client hc
    obtain ⟨c'', hc'', hs'⟩ := hk'.client hc'
    exact ⟨c'', hc'', hs'.trans hs⟩
  time hc ht := by
    obtain ⟨c', hc', -⟩ := hk.client hc
    rcases hk'.time hc' ht with ht | rfl
    · exact hk.time hc ht
    · exact .inr hk.clock

/-- The client's own time is one that it had before or the present, and so are those of the requests
that are newly held back. -/
theorem keeps_of_client (hclock : h'.clock = h.clock)
    (hclient : ∀ {c}, h.client? i = some c → ∃ c', h'.client? i = some c'
      ∧ c'.settings = c.settings ∧ (HasTime i h c'.lastSync ∨ c'.lastSync = h.clock))
    (hheld : ∀ x ∈ h'.held, x ∈ h.held
      ∨ ∀ now caller, x.task = .sync (.whenDue now) caller → now = h.clock) : Keeps i h h' where
  clock := hclock
  client hc := by
    obtain ⟨c', hc', hs, -⟩ := hclient hc
    exact ⟨c', hc', hs⟩
  time hc ht := by
    rcases ht with hc₁ | ⟨hx, hi, htask⟩
    · obtain ⟨c', hc', -, htime⟩ := hclient hc
      rw [hc', Option.some.injEq] at hc₁
      exact hc₁ ▸ htime
    · rcases hheld _ hx with hx | hnow
      · exact .inl (.awaited hx hi htask)
      · exact .inr (hnow _ _ htask)

theorem keeps_of_alike (ha : h.Alike h') : Keeps i h h' := by
  refine keeps_of_client ha.clock (fun {c} hc => ?_) fun x hx => .inl (ha.held ▸ hx)
  obtain ⟨c', hc', hac⟩ := ha.client hc
  exact ⟨c', hc', hac.settings, .inl (hac.lastSync ▸ .last hc)⟩

theorem keeps_of_clients (hclock : h'.clock = h.clock) (hc : h'.clients = h.clients)
    (hheld : ∀ x ∈ h'.held, x ∈ h.held
      ∨ ∀ now caller, x.task = .sync (.whenDue now) caller → now = h.clock) : Keeps i h h' :=
  keeps_of_client hclock (fun {c} hi => ⟨c, by rwa [client?, hc], rfl, .inl (.last hi)⟩) hheld

theorem Keeps.note (hk : Keeps i h h') (notices : List Notice) : Keeps i h (h'.note notices) :=
  hk.trans (keeps_of_clients rfl rfl fun _ => .inl)

theorem keeps_setClient (hc : h.client? j = some c) (hs : c'.settings = c.settings)
    (ht : c'.lastSync = c.lastSync ∨ c'.lastSync = h.clock) : Keeps i h (h.setClient j c') := by
  refine keeps_of_client rfl (fun {ci} hi => ?_) fun _ => .inl
  by_cases hij : i = j
  · subst hij
    rw [hi, Option.some.injEq] at hc
    subst hc
    refine ⟨c', client?_setClient_self hi, hs, ht.imp_left fun he => ?_⟩
    rw [he]
    exact .last hi
  · exact ⟨ci, by rwa [client?_setClient_of_ne hij], rfl, .inl (.last hi)⟩

end Basic

/-! ## Workers -/

section Workers

omit [TimeScale τ]

theorem keeps_finishEvent (h : Host τ) (j worker : Nat) (outcome : Outcome) :
    Keeps i h (h.finishEvent j worker outcome) := by
  unfold finishEvent
  split
  · exact .refl h
  · rename_i c hc
    refine Keeps.note (keeps_setClient hc ?_ (.inl ?_)) _ <;> rfl

theorem keeps_sendEvent (hc : h.client? j = some c) (r : Reporter) (worker : Nat) (e : Event) :
    Keeps i h (h.sendEvent j worker { c with reporter := r } e) := by
  have hset : Keeps i h (h.setClient j { c with reporter := r }) :=
    keeps_setClient hc rfl (.inl rfl)
  have hposted : Keeps i h (h.posted j { c with reporter := r } e) :=
    hset.trans (keeps_of_clients rfl rfl fun _ => .inl)
  have hcases := sendEvent_cases h j worker { c with reporter := r } e
  generalize h.sendEvent j worker { c with reporter := r } e = h' at hcases ⊢
  cases hcases with
  | unwritten => exact keeps_setClient hc rfl (.inl rfl)
  | answered => exact hposted.trans (keeps_finishEvent _ j worker _)
  | held =>
    refine hposted.trans (keeps_of_clients rfl rfl fun x hx => ?_)
    rcases List.mem_append.1 hx with hx | hx
    · exact .inl hx
    · obtain rfl := List.mem_singleton.1 hx
      exact .inr nofun

theorem keeps_start (h : Host τ) (j : Nat) : Keeps i h (h.start j) := by
  unfold start
  split
  · exact .refl h
  · rename_i c hc
    refine Keeps.note (keeps_setClient hc ?_ (.inl ?_)) _ <;> rfl

theorem keeps_stop (h : Host τ) (j : Nat) (hasTime : Bool) : Keeps i h (h.stop j hasTime) := by
  unfold stop
  split
  · exact .refl h
  · rename_i c hc
    split
    · exact .refl h
    · have hset : Keeps i h (h.setClient j { c with reporter := c.reporter.halt }) :=
        keeps_setClient hc rfl (.inl rfl)
      exact (hset.note _).trans
        (keeps_of_clients rfl rfl fun x hx => .inl (List.mem_of_mem_filter hx))

theorem keeps_workOn (h : Host τ) (j : Nat) : Keeps i h (h.workOn j) :=
  workOn_of_send Keeps.refl Keeps.trans (fun hc _ => keeps_sendEvent hc _ _ _) h j

theorem keeps_settle (h : Host τ) : Keeps i h h.settle :=
  settle_of_send Keeps.refl Keeps.trans (fun hc _ => keeps_sendEvent hc _ _ _) h

end Workers

/-! ## Synchronisations -/

theorem client?_endSync (hc : h.client? j = some c) (mode : SyncMode τ) (outcome : Outcome) :
    ∃ c', (h.endSync j mode outcome).1.client? j = some c' ∧ c'.settings = c.settings
      ∧ (c'.lastSync = c.lastSync ∨ c'.lastSync = mode.mark c.lastSync) := by
  unfold endSync
  simp only [hc, Client.endSync]
  rcases outcome.receive (TimeScale.toDateTime h.clock) with x | e | d
  · exact ⟨_, client?_setClient_self hc, rfl, .inl rfl⟩
  · refine ⟨_, client?_setClient_self hc, ?_, .inl ?_⟩ <;> cases mode <;> rfl
  · refine ⟨_, client?_setClient_self hc, ?_, .inr ?_⟩ <;> cases mode <;> rfl

/-- The end of a synchronisation sets the time that it meant, whatever is held back meanwhile. -/
theorem keeps_endSync {l : List (Held τ)} (hl : ∀ x ∈ l, x ∈ h.held) {mode : SyncMode τ}
    (hmode : ∀ now, mode = .whenDue now → i = j → HasTime i h now ∨ now = h.clock)
    (outcome : Outcome) : Keeps i h ({ h with held := l }.endSync j mode outcome).1 := by
  refine keeps_of_client (endSync_clock ..) (fun {c} hc => ?_) fun x hx => .inl (hl x ?_)
  · by_cases hij : i = j
    · subst hij
      have hwithout : { h with held := l }.client? i = some c := hc
      obtain ⟨c', hc', hs, ht⟩ := client?_endSync hwithout mode outcome
      refine ⟨c', hc', hs, ?_⟩
      rcases ht with ht | ht
      · exact .inl (ht ▸ .last hc)
      · cases mode with
        | plain => exact .inl (ht ▸ .last hc)
        | whenDue now => exact ht ▸ hmode now rfl rfl
    · exact ⟨c, by rwa [client?_endSync_of_ne hij], rfl, .inl (.last hc)⟩
  · rwa [endSync_held] at hx

theorem keeps_callSync (h : Host τ) (j : Nat) {mode : SyncMode τ} (caller : Caller)
    (hat : mode.IsAt h.clock) : Keeps i h (h.callSync j mode caller).1 := by
  rcases hc : h.client? j with _ | c
  · rw [callSync_of_none hc]
    exact .refl h
  · have hcases := callSync_cases hc mode caller
    generalize h.callSync j mode caller = result at hcases ⊢
    cases hcases with
    | refused | skipped => exact .refl h
    | @requested notices _ _ hr =>
      have hc' : (h.note notices).client? j = some c := hc
      have hset : Keeps i (h.note notices)
          ((h.note notices).setClient j { c with syncing := true }) :=
        keeps_setClient hc' rfl (.inl rfl)
      have hbegun : Keeps i h ((h.note notices).begun j c) :=
        ((Keeps.refl h).note notices).trans
          (hset.trans (keeps_of_clients rfl rfl fun _ => .inl))
      cases hr with
      | answered =>
        refine hbegun.trans (keeps_endSync (fun _ => id) (fun now hnow _ => .inr ?_) _)
        subst hnow
        exact hat
      | givenUp => exact hbegun.trans (keeps_setClient (client?_begun hc') rfl (.inl rfl))
      | held =>
        refine hbegun.trans (keeps_of_clients rfl rfl fun x hx => ?_)
        rcases List.mem_append.1 hx with hx | hx
        · exact .inl hx
        · obtain rfl := List.mem_singleton.1 hx
          refine .inr fun now caller' htask => ?_
          obtain ⟨rfl, -⟩ := Task.sync.inj htask
          exact hat

theorem keeps_syncAction (h : Host τ) {mode : SyncMode τ} (behind : Bool)
    (hat : mode.IsAt h.clock) : Keeps i h (h.syncAction mode behind).1 := by
  unfold syncAction
  split_ifs
  · have hcalls : Keeps i h { h with calls := h.calls ++ [none] } :=
      keeps_of_clients rfl rfl fun _ => .inl
    have hcall := keeps_callSync (i := i) { h with calls := h.calls ++ [none] } h.current
      (.call h.calls.length) hat
    unfold syncBehind syncFor
    dsimp only
    split <;> rename_i heq <;> rw [heq] at hcall
    · exact (hcalls.trans hcall).trans (keeps_of_alike (alike_deliver _ _ _))
    · exact hcalls.trans hcall
  · exact keeps_callSync h h.current .host hat

theorem keeps_adminSync (h : Host τ) (j : Nat) : Keeps i h (h.adminSync j).1 := by
  have hplain : SyncMode.IsAt h.clock .plain := trivial
  have hsync : Keeps i h (h.sync j .plain).1 := keeps_callSync h j .host hplain
  unfold adminSync
  rcases heq : h.sync j .plain with ⟨h', x | _ | e | d⟩ <;> rw [heq] at hsync
  · exact hsync
  · exact hsync
  · exact hsync.note _
  · refine Keeps.note ?_ _
    rcases hc : h'.client? j with _ | c
    · exact hsync
    · exact hsync.trans (keeps_setClient hc rfl (.inr rfl))

theorem keeps_serve {app : App τ} (happ : ∀ h, Keeps i h (app h).1) (h : Host τ) (j : Nat)
    (r : Request) : Keeps i h (h.serve j r app).1 := by
  rcases alike_serve h j r app with ha | ⟨h₁, ha, hb⟩
  · exact keeps_of_alike ha
  · exact ((keeps_of_alike ha).trans (happ h₁)).trans (keeps_of_alike hb)

theorem keeps_serveOwn (h : Host τ) (j : Nat) (r : Request) : Keeps i h (h.serveOwn j r).1 := by
  rw [serveOwn_host]
  refine keeps_serve (fun h₁ => ?_) h j r
  rcases route_cases h₁ j r with heq | ⟨c, -, -, heq⟩ <;> rw [heq]
  · exact .refl h₁
  · exact keeps_adminSync h₁ j

/-! ## Requests that are let go -/

theorem keeps_resume {before after : List (Held τ)} {x : Held τ}
    (hx : h.held = before ++ x :: after) :
    Keeps i h ({ h with held := before ++ after }.resume x) := by
  have hsub : ∀ y ∈ before ++ after, y ∈ h.held := by
    rw [hx]
    exact ((List.sublist_cons_self x after).append_left before).subset
  obtain ⟨j, task, outcome⟩ := x
  rcases task with worker | ⟨mode, caller⟩
  · have hgone : Keeps i h { h with held := before ++ after } :=
      keeps_of_clients rfl rfl fun y hy => .inl (hsub y hy)
    exact (hgone.trans (keeps_finishEvent _ j worker outcome)).trans (keeps_workOn _ j)
  · refine (keeps_endSync hsub (fun now hnow hij => .inl ?_) outcome).trans
      (keeps_of_alike (alike_deliver _ caller _))
    subst hnow hij
    exact .awaited (hx ▸ List.mem_append_cons_self) rfl rfl

theorem keeps_release (h : Host τ) : Keeps i h h.release := by
  have hgo : Keeps i h
      ({ h with held := [], peer := { h.peer with letsGo := true } }.holding h.held) :=
    keeps_of_clients rfl rfl fun x hx => .inl (by simpa [holding] using hx)
  have hall : Keeps i _ _ := resume_all_of_resume Keeps.refl Keeps.trans keeps_resume h.held
    { h with held := [], peer := { h.peer with letsGo := true } }
  exact (hgo.trans hall).trans (keeps_of_clients rfl rfl fun _ => .inl)

/-! ## Runs -/

/-- The client in use starts and stops, is asked for synchronisations as of the present, at the endpoint
or not, detects and reports, the host serves requests, the peer prepares its answers and lets requests
go, or the clock moves. -/
inductive Ordinary : Action τ → Prop
  | detect (userAgent referrer : String) : Ordinary (.detect userAgent referrer)
  | detectBot (userAgent : String) : Ordinary (.detectBot userAgent)
  | detectReferrer (referrer : String) : Ordinary (.detectReferrer referrer)
  | report (userAgent referrer : String) (v : Visit) : Ordinary (.report userAgent referrer v)
  | start : Ordinary .start
  | stop (hasTime : Bool) : Ordinary (.stop hasTime)
  | sync (behind : Bool) : Ordinary (.sync behind)
  | syncWhenDue (behind : Bool) : Ordinary (.syncWhenDue none behind)
  | serve (r : Request) (app : FixedApp) : Ordinary (.serve r app)
  | serveOwn (r : Request) : Ordinary (.serveOwn r)
  | prepare (answers : List Answer) : Ordinary (.prepare answers)
  | release : Ordinary .release
  | advance (seconds : τ) : Ordinary (.advance seconds)

omit [TimeScale τ] in
theorem keeps_letClient {f : Client τ → Client τ × List Notice × Except Interruption (Reply τ)}
    (hf : ∀ c : Client τ, c.Alike (f c).1) (h : Host τ) : Keeps i h (h.letClient f).1 := by
  unfold letClient
  split
  · exact .refl h
  · rename_i c hc
    exact keeps_of_alike ((Alike.setClient hc (hf c)).note _)

theorem keeps_detectAndReport (h : Host τ) (userAgent referrer : String) (v : Visit) :
    Keeps i h (h.detectAndReport userAgent referrer v).1 := by
  refine keeps_letClient (fun c => ?_) h
  have hd := c.alike_detect userAgent referrer
  generalize c.detect userAgent referrer = found at hd ⊢
  obtain ⟨c', notices, e | d⟩ := found
  · exact hd
  · exact hd.trans (c'.alike_report d v h.clock)

/-- Unless it moves the clock, an action keeps the times of every client. -/
theorem keeps_perform (h : Host τ) {a : Action τ} (ha : Ordinary a) :
    (∃ seconds, a = .advance seconds) ∨ Keeps i h (h.perform a).1 := by
  cases ha with
  | detect userAgent referrer =>
    exact .inr (keeps_letClient (fun c => c.alike_detect userAgent referrer) h)
  | detectBot userAgent => exact .inr (keeps_letClient (fun c => ⟨rfl, rfl, rfl, rfl⟩) h)
  | detectReferrer referrer => exact .inr (.refl h)
  | report userAgent referrer v => exact .inr (keeps_detectAndReport h userAgent referrer v)
  | start => exact .inr (keeps_start h _)
  | stop hasTime => exact .inr (keeps_stop h _ hasTime)
  | sync behind => exact .inr (keeps_syncAction h behind trivial)
  | syncWhenDue behind => exact .inr (keeps_syncAction h behind rfl)
  | serve r app =>
    have happ : ∀ h : Host τ, Keeps i h (app.toApp h).1 := fun h =>
      keeps_of_clients rfl rfl fun _ => .inl
    exact .inr (keeps_serve happ h _ r)
  | serveOwn r => exact .inr (keeps_serveOwn h _ r)
  | prepare answers => exact .inr (keeps_of_clients rfl rfl fun _ => .inl)
  | release => exact .inr (keeps_release h)
  | advance seconds => exact .inl ⟨seconds, rfl⟩

/-- After an action a client has no new times but those that the clock shows before or after it. -/
theorem time_act (hc : h.client? i = some c) {a : Action τ} (ha : Ordinary a) :
    ∃ c', (h.act a).1.client? i = some c' ∧ c'.settings = c.settings
      ∧ ∀ t, HasTime i (h.act a).1 t → HasTime i h t ∨ t = h.clock ∨ t = (h.act a).1.clock := by
  have hsettle : Keeps i (h.perform a).1 (h.act a).1 := keeps_settle _
  rcases keeps_perform (i := i) h ha with ⟨seconds, rfl⟩ | hk
  · obtain ⟨c', hc', hs⟩ := hsettle.client (c := c) hc
    refine ⟨c', hc', hs, fun t ht => ?_⟩
    rcases hsettle.time (c := c) hc ht with (hlast | ⟨hx, hi, htask⟩) | rfl
    · exact .inl (.last hlast)
    · exact .inl (.awaited hx hi htask)
    · exact .inr (.inr hsettle.clock.symm)
  · obtain ⟨c', hc', hs⟩ := (hk.trans hsettle).client hc
    exact ⟨c', hc', hs, fun t ht => ((hk.trans hsettle).time hc ht).imp_right .inl⟩

/-- Before and after each of some actions, the clock shows times of some kind. -/
def ClockStays (P : τ → Prop) (h : Host τ) : List (Action τ) → Prop
  | [] => P h.clock
  | a :: actions => P h.clock ∧ ClockStays P (h.act a).1 actions

theorem ClockStays.start {P : τ → Prop} {actions : List (Action τ)}
    (hp : ClockStays P h actions) : P h.clock := by
  cases actions with
  | nil => exact hp
  | cons a actions => exact hp.1

/-- After a run each time of a client is one that it had before, or the clock has shown it. -/
theorem ClockStays.time_run {P : τ → Prop} {actions : List (Action τ)}
    (hp : ClockStays P h actions) (ha : ∀ a ∈ actions, Ordinary a) (hc : h.client? i = some c) :
    ∃ c', (h.run actions).client? i = some c' ∧ c'.settings = c.settings
      ∧ ∀ t, HasTime i (h.run actions) t → HasTime i h t ∨ P t := by
  induction actions generalizing h c with
  | nil => exact ⟨c, hc, rfl, fun t ht => .inl ht⟩
  | cons a actions ih =>
    obtain ⟨hnow, hrest⟩ := hp
    obtain ⟨ha, hactions⟩ := List.forall_mem_cons.1 ha
    obtain ⟨c₁, hc₁, hs₁, ht₁⟩ := time_act hc ha
    obtain ⟨c', hc', hs, htime⟩ := ih hrest hactions hc₁
    refine ⟨c', hc', hs.trans hs₁, fun t ht => ?_⟩
    rcases htime t ht with ht | ht
    · rcases ht₁ t ht with ht | rfl | rfl
      · exact .inl ht
      · exact .inr hnow
      · exact .inr hrest.start
    · exact .inr ht

end Keeps

end Host

end BotSentry
