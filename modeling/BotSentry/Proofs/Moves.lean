import BotSentry.Proofs.SingleFlight

/-!
# The synchronisations of one client

All that a host does to the time and the synchronisations of one of its clients is a `Move`: a call
has to wait, a synchronisation ends at once or later (`Ends`), for the endpoint or not, or is
cancelled, and the clock does not go back. What else happens, to its events or to other clients, is
beside the point (`Aside`). The calls of a client in use, requests at the endpoint, answers that are
let go and the passing of time come down to moves, in any order (`moves_act`, `moves_run`).
-/

namespace BotSentry

variable {τ : Type} [TimeScale τ]

/-- A call that is for a synchronisation if that is due means the present. -/
def SyncMode.IsAt (now : τ) : SyncMode τ → Prop
  | .plain => True
  | .whenDue t => t = now

namespace Host

/-- A synchronisation of a client comes to an end, at once or when its request is let go. -/
inductive Ends (i : Nat) (mode : SyncMode τ) (e : SyncEnd) (h h' : Host τ) : Prop
  | atOnce {caller : Caller} : mode.IsAt h.clock → h.callSync i mode caller = (h', some e) →
      Ends i mode e h h'
  | landed {before after : List (Held τ)} {caller : Caller} {outcome : Outcome} :
      h.held = before ++ { client := i, task := .sync mode caller, outcome } :: after →
      { h with held := before ++ after }.endSync i mode outcome = (h', e) → Ends i mode e h h'

/-- The share of the endpoint in a synchronisation that has ended: with success it sets the time. -/
def answered (h : Host τ) (i : Nat) : SyncEnd → Host τ
  | .ok (some (.ok _)) =>
    match h.client? i with
    | none => h
    | some c => h.setClient i { c with lastSync := h.clock }
  | _ => h

/-- What happens has nothing to do with the time and the synchronisations of a client, and the clock
does not go back. -/
structure Aside (i : Nat) (h h' : Host Micros) : Prop where
  clock : h.clock.count ≤ h'.clock.count
  inFlight : h'.inFlight i = h.inFlight i
  client : ∀ {c}, h.client? i = some c → ∃ c', h'.client? i = some c'
    ∧ c'.settings = c.settings ∧ c'.lastSync = c.lastSync ∧ c'.syncing = c.syncing

/-- What can happen to the time and the synchronisations of a client. -/
inductive Move (i : Nat) : Host Micros → Host Micros → Prop
  | aside {h h' : Host Micros} : Aside i h h' → Move i h h'
  /-- A call has to wait. -/
  | begun {h h' : Host Micros} {mode : SyncMode Micros} {caller : Caller} : mode.IsAt h.clock →
      h.callSync i mode caller = (h', none) → Move i h h'
  | ended {h h' : Host Micros} {mode : SyncMode Micros} {e : SyncEnd} : Ends i mode e h h' →
      Move i h h'
  /-- The endpoint has asked for the synchronisation that ends. -/
  | endpoint {h h' : Host Micros} {e : SyncEnd} : Ends i .plain e h h' → Move i h (h'.answered i e)
  | cancelled {h : Host Micros} {before after : List (Held Micros)} {x : Held Micros} :
      h.held = before ++ x :: after → x.isSyncOf i = true →
      Move i h ({ h with held := before ++ after }.free x)

/-- Any number of moves. -/
abbrev Moves (i : Nat) : Host Micros → Host Micros → Prop := Relation.ReflTransGen (Move i)

/-- Wherever it ends, a synchronisation is all or nothing. -/
theorem Ends.exists_allOrNothing {h h' : Host τ} {i : Nat} {c : Client τ} {mode : SyncMode τ}
    {e : SyncEnd} (hc : h.client? i = some c) (hends : Ends i mode e h h') : ∃ c' outcome,
      h'.client? i = some c' ∧ AllOrNothing h h' c c' outcome (mode.mark c.lastSync) e := by
  rcases hends with ⟨-, hcall⟩ | ⟨-, hend⟩
  · obtain ⟨c', hc', -, hall⟩ := callSync_allOrNothing hc hcall
    exact ⟨c', _, hc', hall⟩
  · rename_i before after _ outcome
    have hwithout : { h with held := before ++ after }.client? i = some c := hc
    obtain ⟨c', hc', -, hall⟩ := endSync_allOrNothing hwithout mode outcome
    rw [hend] at hc' hall
    exact ⟨c', outcome, hc', hall.of_unchanged rfl rfl ⟨rfl, rfl, rfl⟩ ⟨rfl, rfl, rfl⟩⟩

/-! ## What is beside the point -/

section Aside

variable {h h' : Host Micros} {i j : Nat} {c c' : Client Micros}

theorem Aside.refl (h : Host Micros) : Aside i h h :=
  ⟨Int.le_refl _, rfl, fun hc => ⟨_, hc, rfl, rfl, rfl⟩⟩

theorem Aside.trans {h'' : Host Micros} (h₁ : Aside i h h') (h₂ : Aside i h' h'') :
    Aside i h h'' where
  clock := Int.le_trans h₁.clock h₂.clock
  inFlight := h₂.inFlight.trans h₁.inFlight
  client hc := by
    obtain ⟨c', hc', hset, hlast, hs⟩ := h₁.client hc
    obtain ⟨c'', hc'', hset', hlast', hs'⟩ := h₂.client hc'
    exact ⟨c'', hc'', hset'.trans hset, hlast'.trans hlast, hs'.trans hs⟩

theorem aside_of_same (hclock : h.clock.count ≤ h'.clock.count) (hc : h'.clients = h.clients)
    (hh : h'.held = h.held) : Aside i h h' := by
  refine ⟨hclock, by rw [inFlight, hh, inFlight], fun {c} hi => ⟨c, ?_, rfl, rfl, rfl⟩⟩
  rwa [client?, hc]

theorem Aside.note (ha : Aside i h h') (notices : List Notice) : Aside i h (h'.note notices) :=
  ha.trans (aside_of_same (Int.le_refl _) rfl rfl)

theorem aside_of_alike (ha : h.Alike h') : Aside i h h' := by
  refine ⟨?_, by rw [inFlight, ha.held, inFlight], fun hc => ?_⟩
  · exact Int.le_of_eq (by rw [ha.clock])
  · obtain ⟨c', hc', hac⟩ := ha.client hc
    exact ⟨c', hc', hac.settings, hac.lastSync, hac.syncing⟩

/-- Another client is set, or the same one without a change of its time and its synchronisations. -/
theorem aside_setClient (hc : h.client? j = some c) (hsame : j = i → c'.settings = c.settings
    ∧ c'.lastSync = c.lastSync ∧ c'.syncing = c.syncing) : Aside i h (h.setClient j c') := by
  refine ⟨Int.le_refl _, rfl, fun {ci} hi => ?_⟩
  by_cases hji : j = i
  · subst hji
    rw [hc, Option.some.injEq] at hi
    subst hi
    exact ⟨c', client?_setClient_self hc, hsame rfl⟩
  · exact ⟨ci, by rwa [client?_setClient_of_ne (Ne.symm hji)], rfl, rfl, rfl⟩

/-- Requests of events and of other clients come and go. -/
theorem aside_held {l : List (Held Micros)}
    (hl : l.filter (·.isSyncOf i) = h.held.filter (·.isSyncOf i)) :
    Aside i h { h with held := l } :=
  ⟨Int.le_refl _, hl, fun hc => ⟨_, hc, rfl, rfl, rfl⟩⟩

/-! ### Workers -/

theorem aside_finishEvent (h : Host Micros) (j worker : Nat) (outcome : Outcome) :
    Aside i h (h.finishEvent j worker outcome) := by
  rcases hc : h.client? j with _ | c
  · rw [finishEvent_of_none hc]
    exact .refl h
  · rw [finishEvent_eq hc]
    refine Aside.note (aside_setClient hc fun _ => ?_) _
    exact ⟨rfl, rfl, rfl⟩

theorem aside_sendEvent (hc : h.client? j = some c) (r : Reporter) (worker : Nat) (e : Event) :
    Aside i h (h.sendEvent j worker { c with reporter := r } e) := by
  have hset : Aside i h (h.setClient j { c with reporter := r }) := by
    refine aside_setClient hc fun _ => ?_
    exact ⟨rfl, rfl, rfl⟩
  have hposted : Aside i h (h.posted j { c with reporter := r } e) :=
    hset.trans (aside_of_same (Int.le_refl _) rfl rfl)
  have hcases := sendEvent_cases h j worker { c with reporter := r } e
  generalize h.sendEvent j worker { c with reporter := r } e = h' at hcases ⊢
  cases hcases with
  | unwritten =>
    refine aside_setClient hc fun _ => ?_
    exact ⟨rfl, rfl, rfl⟩
  | answered => exact hposted.trans (aside_finishEvent _ j worker _)
  | held =>
    refine hposted.trans (aside_held ?_)
    simp [posted, setClient, Held.isSyncOf, Task.isEvent]

theorem aside_workOn (h : Host Micros) (j : Nat) : Aside i h (h.workOn j) :=
  workOn_of_send Aside.refl Aside.trans (fun hc _ => aside_sendEvent hc _ _ _) h j

theorem aside_settle (h : Host Micros) : Aside i h h.settle :=
  settle_of_send Aside.refl Aside.trans (fun hc _ => aside_sendEvent hc _ _ _) h

/-! ### Other clients -/

theorem aside_endSync (hne : j ≠ i) (h : Host Micros) (mode : SyncMode Micros)
    (outcome : Outcome) : Aside i h (h.endSync j mode outcome).1 := by
  rcases hc : h.client? j with _ | c
  · rw [endSync_of_none hc]
    exact .refl h
  · obtain ⟨cache, notices, c', he, -, -⟩ := exists_endSync_eq hc mode outcome
    have hcache : Aside i h ({ h with cache }.note notices) :=
      aside_of_same (Int.le_refl _) rfl rfl
    have hc' : ({ h with cache }.note notices).client? j = some c := hc
    rw [he]
    exact hcache.trans (aside_setClient hc' fun hji => absurd hji hne)

theorem aside_callSync (hne : j ≠ i) (h : Host Micros) (mode : SyncMode Micros)
    (caller : Caller) : Aside i h (h.callSync j mode caller).1 := by
  rcases hc : h.client? j with _ | c
  · rw [callSync_of_none hc]
    exact .refl h
  · have hcases := callSync_cases hc mode caller
    generalize h.callSync j mode caller = result at hcases ⊢
    cases hcases with
    | refused | skipped => exact .refl h
    | @requested notices _ _ hr =>
      have hc' : (h.note notices).client? j = some c := hc
      have hset : Aside i (h.note notices)
          ((h.note notices).setClient j { c with syncing := true }) :=
        aside_setClient hc' fun hji => absurd hji hne
      have hbegun : Aside i h ((h.note notices).begun j c) :=
        ((Aside.refl h).note notices).trans (hset.trans
          (aside_of_same (Int.le_refl _) rfl rfl))
      cases hr with
      | answered => exact hbegun.trans (aside_endSync hne _ mode _)
      | givenUp =>
        exact hbegun.trans (aside_setClient (client?_begun hc') fun hji => absurd hji hne)
      | held =>
        refine hbegun.trans (aside_held ?_)
        simp [begun, setClient, note, Held.isSyncOf, hne]

end Aside

/-! ## Calls -/

section Calls

variable {h : Host Micros} {i : Nat}

theorem Aside.moves {h' : Host Micros} (ha : Aside i h h') : Moves i h h' := .single (.aside ha)

theorem moves_callSync (h : Host Micros) (j : Nat) {mode : SyncMode Micros} (caller : Caller)
    (hat : mode.IsAt h.clock) : Moves i h (h.callSync j mode caller).1 := by
  by_cases hji : j = i
  · subst hji
    rcases hcall : h.callSync j mode caller with ⟨h', _ | e⟩
    · exact .single (.begun hat hcall)
    · exact .single (.ended (.atOnce hat hcall))
  · exact (aside_callSync hji h mode caller).moves

theorem moves_syncFor (h : Host Micros) (j : Nat) {mode : SyncMode Micros} (caller : Caller)
    (hat : mode.IsAt h.clock) : Moves i h (h.syncFor j mode caller) := by
  have hcall : Moves i h (h.callSync j mode caller).1 := moves_callSync h j caller hat
  unfold syncFor
  split <;> rename_i h' _ heq <;> rw [heq] at hcall
  · exact hcall.trans (aside_of_alike (alike_deliver h' caller _)).moves
  · exact hcall

theorem moves_syncAction (h : Host Micros) {mode : SyncMode Micros} (behind : Bool)
    (hat : mode.IsAt h.clock) : Moves i h (h.syncAction mode behind).1 := by
  unfold syncAction
  split_ifs
  · have hcalls : Aside i h { h with calls := h.calls ++ [none] } :=
      aside_of_same (Int.le_refl _) rfl rfl
    exact hcalls.moves.trans (moves_syncFor { h with calls := h.calls ++ [none] } _ _ hat)
  · exact moves_callSync h h.current .host hat

/-! ## The endpoint -/

theorem moves_adminSync (h : Host Micros) (j : Nat) : Moves i h (h.adminSync j).1 := by
  have hnote : ∀ h₁ : Host Micros, h₁.note [] = h₁ := fun h₁ => by rw [note, List.append_nil]
  have hend : ∃ notices, (h.adminSync j).1
      = ((h.sync j .plain).1.answered j (h.sync j .plain).2).note notices := by
    unfold adminSync
    rcases h.sync j .plain with ⟨h₁, x | _ | e | d⟩
    · exact ⟨[], (hnote h₁).symm⟩
    · exact ⟨[], (hnote h₁).symm⟩
    · exact ⟨_, rfl⟩
    · exact ⟨_, rfl⟩
  obtain ⟨notices, heq⟩ := hend
  rw [heq]
  refine Relation.ReflTransGen.trans ?_ ((Aside.refl _).note notices).moves
  rcases hc : h.client? j with _ | c
  · rw [show h.sync j .plain = (h, .ok none) by simp only [sync, callSync, hc, Option.getD_some]]
    exact .refl
  · by_cases hji : j = i
    · subst hji
      exact .single (.endpoint (.atOnce trivial (callSync_host hc .plain)))
    · have hcall : Aside i h (h.sync j .plain).1 := aside_callSync hji h .plain .host
      refine (hcall.trans ?_).moves
      unfold answered
      split
      · split
        · exact .refl _
        · rename_i c₁ hc₁
          exact aside_setClient hc₁ fun h => absurd h hji
      · exact .refl _

theorem moves_serveOwn (h : Host Micros) (j : Nat) (r : Request) :
    Moves i h (h.serveOwn j r).1 := by
  rw [serveOwn_host]
  rcases alike_serve h j r (route j r) with ha | ⟨h₁, ha, hb⟩
  · exact (aside_of_alike ha).moves
  · have hroute : Moves i h₁ (route j r h₁).1 := by
      rcases route_cases h₁ j r with heq | ⟨c, -, -, heq⟩ <;> rw [heq]
      exact moves_adminSync h₁ j
    exact ((aside_of_alike ha).moves.trans hroute).trans (aside_of_alike hb).moves

/-! ## Requests that are let go -/

theorem moves_resume {before after : List (Held Micros)} {x : Held Micros}
    (hx : h.held = before ++ x :: after) :
    Moves i h ({ h with held := before ++ after }.resume x) := by
  obtain ⟨j, task, outcome⟩ := x
  rcases task with worker | ⟨mode, caller⟩
  · have hgone : Aside i h { h with held := before ++ after } := by
      refine aside_held ?_
      simp [hx, Held.isSyncOf, Task.isEvent]
    exact ((hgone.trans (aside_finishEvent _ j worker outcome)).trans (aside_workOn _ j)).moves
  · have hend : Moves i h ({ h with held := before ++ after }.endSync j mode outcome).1 := by
      by_cases hji : j = i
      · subst hji
        exact .single (.ended (.landed hx rfl))
      · have hgone : Aside i h { h with held := before ++ after } := by
          refine aside_held ?_
          simp [hx, Held.isSyncOf, hji]
        exact (hgone.trans (aside_endSync hji _ mode outcome)).moves
    exact hend.trans (aside_of_alike (alike_deliver _ caller _)).moves

theorem moves_release (h : Host Micros) : Moves i h h.release := by
  have hgo : Aside i h
      ({ h with held := [], peer := { h.peer with letsGo := true } }.holding h.held) :=
    aside_of_same (Int.le_refl _) rfl (List.append_nil _)
  have hall : Moves i _ _ := resume_all_of_resume (fun _ => .refl) .trans moves_resume h.held
    { h with held := [], peer := { h.peer with letsGo := true } }
  refine (hgo.moves.trans hall).trans (Aside.moves ?_)
  exact aside_of_same (Int.le_refl _) rfl rfl

end Calls

/-! ## Runs -/

/-- The client in use is asked for a synchronisation, at the endpoint or not, the peer prepares its
answers and lets requests go, or time passes. -/
inductive Paced : Action Micros → Prop
  | sync (behind : Bool) : Paced (.sync behind)
  | syncWhenDue (behind : Bool) : Paced (.syncWhenDue none behind)
  | serveOwn (r : Request) : Paced (.serveOwn r)
  | prepare (answers : List Answer) : Paced (.prepare answers)
  | release : Paced .release
  | advance {seconds : Micros} : 0 ≤ seconds.count → Paced (.advance seconds)

theorem moves_act (h : Host Micros) {i : Nat} {a : Action Micros} (ha : Paced a) :
    Moves i h (h.act a).1 := by
  refine Relation.ReflTransGen.trans (b := (h.perform a).1) ?_ (aside_settle _).moves
  cases ha with
  | sync behind => exact moves_syncAction h behind trivial
  | syncWhenDue behind => exact moves_syncAction h behind rfl
  | serveOwn r => exact moves_serveOwn h _ r
  | prepare answers =>
    have hprepared : Aside i h (h.perform (.prepare answers)).1 :=
      aside_of_same (Int.le_refl _) rfl rfl
    exact hprepared.moves
  | release => exact moves_release h
  | @advance seconds hle =>
    have hlater : Aside i h (h.perform (.advance seconds)).1 :=
      aside_of_same (Int.le_add_of_nonneg_right hle) rfl rfl
    exact hlater.moves

theorem moves_run (h : Host Micros) {i : Nat} {actions : List (Action Micros)}
    (ha : ∀ a ∈ actions, Paced a) : Moves i h (h.run actions) := by
  unfold run
  induction actions generalizing h with
  | nil => exact .refl
  | cons a actions ih =>
    exact (moves_act h (ha a List.mem_cons_self)).trans
      (ih _ fun b hb => ha b (List.mem_cons_of_mem a hb))

end Host

end BotSentry
