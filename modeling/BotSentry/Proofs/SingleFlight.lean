import BotSentry.Proofs.Commit
import BotSentry.Proofs.Sending
import BotSentry.Proofs.Steps

/-!
# A single flight

A client is locked as long as it waits for a request for patterns, and there is never more than one of
those (`SingleFlight`). This is kept by every step of a host (`singleFlight_step`): a call takes off only
where the client is free, and the landing of its request, by an answer or by a cancellation, frees it.
What is left is to read off what the lock does to the next call (`single_flight`). The endpoint calls as
everybody does: while its request waits, it is a plain call, and its own share is to set the time at the
end.
-/

namespace BotSentry

/-- Whether a request belongs to a synchronisation of some client. -/
def Held.isSyncOf {τ : Type} (i : Nat) (x : Held τ) : Bool := x.client = i && !x.task.isEvent

variable {τ : Type} [TimeScale τ]

namespace Host

/-- The requests for patterns that a client waits for. -/
def inFlight (h : Host τ) (i : Nat) : List (Held τ) := h.held.filter (·.isSyncOf i)

/-- Whether a client is there and locked. -/
def locked (h : Host τ) (i : Nat) : Bool := (h.client? i).any (·.syncing)

/-- Every client waits for one request for patterns if it is locked, and for none if it is not. -/
def SingleFlight (h : Host τ) : Prop := ∀ i, (h.inFlight i).length = (h.locked i).toNat

/-! ## What does not touch the flight -/

/-- Neither the locks nor the requests for patterns that are held back change. -/
structure SameFlight (h h' : Host τ) : Prop where
  inFlight : ∀ i, h'.inFlight i = h.inFlight i
  locked : ∀ i, h'.locked i = h.locked i

section Frame

omit [TimeScale τ]

variable {h h' : Host τ} {i : Nat} {c c' : Client τ}

theorem locked_eq (hc : h.client? i = some c) : h.locked i = c.syncing := by
  rw [locked, hc, Option.any_some]

theorem locked_setClient (hc : h.client? i = some c) (c' : Client τ) (j : Nat) :
    (h.setClient i c').locked j = if i = j then c'.syncing else h.locked j := by
  unfold locked
  rw [client?_setClient, if_pos (client?_lt hc)]
  split_ifs <;> rfl

theorem SameFlight.refl (h : Host τ) : SameFlight h h := ⟨fun _ => rfl, fun _ => rfl⟩

theorem SameFlight.trans {h'' : Host τ} (h₁ : SameFlight h h') (h₂ : SameFlight h' h'') :
    SameFlight h h'' :=
  ⟨fun i => (h₂.inFlight i).trans (h₁.inFlight i), fun i => (h₂.locked i).trans (h₁.locked i)⟩

theorem sameFlight_of_same (hc : h'.clients = h.clients) (hh : h'.held = h.held) :
    SameFlight h h' := by
  refine ⟨fun i => by rw [inFlight, hh, inFlight], fun i => ?_⟩
  rw [locked, client?, hc, locked, client?]

theorem SameFlight.note (hs : SameFlight h h') (notices : List Notice) :
    SameFlight h (h'.note notices) := hs.trans (sameFlight_of_same rfl rfl)

theorem sameFlight_setClient (hc : h.client? i = some c) (c' : Client τ)
    (hs : c'.syncing = c.syncing) : SameFlight h (h.setClient i c') := by
  refine ⟨fun _ => rfl, fun j => ?_⟩
  rw [locked_setClient hc]
  split_ifs with hij
  · rw [hs, ← hij, locked_eq hc]
  · rfl

/-- A host begins without requests for patterns, and its clients are free. -/
theorem singleFlight_of_free (hheld : h.held = []) (hfree : ∀ c ∈ h.clients, c.syncing = false) :
    SingleFlight h := by
  intro j
  rcases hj : h.client? j with _ | c
  · simp [inFlight, hheld, locked, hj]
  · rw [locked_eq hj, hfree c (List.mem_of_getElem? hj)]
    simp [inFlight, hheld]

theorem SameFlight.singleFlight (hs : SameFlight h h') (hf : SingleFlight h) : SingleFlight h' := by
  intro i
  rw [hs.inFlight, hs.locked]
  exact hf i

theorem sameFlight_finishEvent (h : Host τ) (i worker : Nat) (outcome : Outcome) :
    SameFlight h (h.finishEvent i worker outcome) := by
  rcases hc : h.client? i with _ | c
  · rw [finishEvent_of_none hc]
    exact .refl h
  · rw [finishEvent_eq hc]
    refine SameFlight.note (sameFlight_setClient hc _ ?_) _
    rfl

theorem sameFlight_sendEvent (hc : h.client? i = some c) (hs : c'.syncing = c.syncing)
    (worker : Nat) (e : Event) : SameFlight h (h.sendEvent i worker c' e) := by
  have hposted : SameFlight h (h.posted i c' e) :=
    (sameFlight_setClient hc c' hs).trans (sameFlight_of_same rfl rfl)
  have hcases := sendEvent_cases h i worker c' e
  generalize h.sendEvent i worker c' e = h' at hcases ⊢
  cases hcases with
  | unwritten => exact sameFlight_setClient hc _ hs
  | answered => exact hposted.trans (sameFlight_finishEvent _ i worker _)
  | held =>
    refine hposted.trans ⟨fun j => ?_, fun _ => rfl⟩
    simp [inFlight, posted, setClient, Held.isSyncOf, Task.isEvent]

theorem sameFlight_start (h : Host τ) (i : Nat) : SameFlight h (h.start i) := by
  unfold start
  split
  · exact .refl h
  · rename_i c hc
    have hset : SameFlight h (h.setClient i c.start.1) := sameFlight_setClient hc _ rfl
    exact hset.note _

/-- Only the requests of events are given up. -/
theorem sameFlight_stop (h : Host τ) (i : Nat) (hasTime : Bool) :
    SameFlight h (h.stop i hasTime) := by
  unfold stop
  split
  · exact .refl h
  · rename_i c hc
    split
    · exact .refl h
    · have hset := sameFlight_setClient hc { c with reporter := c.reporter.halt } rfl
      refine ⟨fun j => ?_, hset.locked⟩
      simp only [inFlight, List.filter_filter]
      congr 1
      funext x
      rcases he : x.task.isEvent with _ | _ <;> simp [Held.isSyncOf, he]

end Frame

theorem sameFlight_report (h : Host τ) (i : Nat) (d : Detection) (v : Visit) :
    SameFlight h (h.report i d v).1 := by
  unfold report
  split
  · exact .refl h
  · rename_i c hc
    exact (sameFlight_setClient hc _ (c.alike_report d v h.clock).syncing).note _

/-! ## Landing -/

section Landing

variable {h h' : Host τ} {before after : List (Held τ)} {x : Held τ}

omit [TimeScale τ] in
theorem inFlight_without_event {worker : Nat} (hx : h.held = before ++ x :: after)
    (htask : x.task = .event worker) :
    SameFlight h { h with held := before ++ after } := by
  refine ⟨fun i => ?_, fun _ => rfl⟩
  simp [inFlight, hx, Held.isSyncOf, htask, Task.isEvent]

omit [TimeScale τ] in
theorem length_inFlight_without_sync {mode : SyncMode τ} {caller : Caller}
    (hx : h.held = before ++ x :: after) (htask : x.task = .sync mode caller) (i : Nat) :
    (h.inFlight i).length
      = ({ h with held := before ++ after }.inFlight i).length + if x.client = i then 1 else 0 := by
  simp only [inFlight, hx, List.filter_append, List.filter_cons, Held.isSyncOf, htask,
    Task.isEvent, List.length_append]
  split_ifs <;> simp_all [Nat.add_assoc]

omit [TimeScale τ] in
/-- The request that a client waited for is gone, and the client is free. -/
theorem SingleFlight.land (hf : SingleFlight h) {mode : SyncMode τ} {caller : Caller}
    (hx : h.held = before ++ x :: after) (htask : x.task = .sync mode caller)
    (hheld : h'.held = { h with held := before ++ after }.held)
    (hlocked : ∀ i, h'.locked i = if x.client = i then false else h.locked i) : SingleFlight h' := by
  have hin : ∀ i, h'.inFlight i = { h with held := before ++ after }.inFlight i :=
    fun i => by rw [inFlight, hheld, inFlight]
  have hlength := length_inFlight_without_sync hx htask
  have hself : h'.inFlight x.client = [] := by
    have hone := (hf x.client).symm.trans (hlength x.client)
    have hle := Bool.toNat_le (h.locked x.client)
    rw [if_pos rfl] at hone
    rw [hin]
    exact List.eq_nil_of_length_eq_zero (by omega)
  intro i
  rw [hlocked]
  split_ifs with hi
  · rw [← hi, hself]
    rfl
  · rw [hin, ← hf i, hlength i, if_neg hi, Nat.add_zero]

theorem endSync_held (h : Host τ) (i : Nat) (mode : SyncMode τ) (outcome : Outcome) :
    (h.endSync i mode outcome).1.held = h.held := by
  unfold endSync
  split
  · rfl
  · dsimp only
    split <;> rfl

theorem endSync_peer (h : Host τ) (i : Nat) (mode : SyncMode τ) (outcome : Outcome) :
    (h.endSync i mode outcome).1.peer = h.peer := by
  unfold endSync
  split
  · rfl
  · dsimp only
    split <;> rfl

theorem endSync_locked (h : Host τ) (i : Nat) (mode : SyncMode τ) (outcome : Outcome) (j : Nat) :
    (h.endSync i mode outcome).1.locked j = if i = j then false else h.locked j := by
  rcases hc : h.client? i with _ | c
  · rw [endSync_of_none hc]
    split_ifs with hij
    · rw [← hij, locked, hc, Option.any_none]
    · rfl
  · split_ifs with hij
    · obtain ⟨c', hc', hs, -⟩ := endSync_allOrNothing hc mode outcome
      rw [← hij, locked_eq hc', hs]
    · obtain ⟨cache, notices, c', he, -, -⟩ := exists_endSync_eq hc mode outcome
      have hc' : ({ h with cache }.note notices).client? i = some c := hc
      rw [he, locked_setClient hc', if_neg hij]
      rfl

omit [TimeScale τ] in
theorem free_held (h : Host τ) (x : Held τ) : (h.free x).held = h.held := by
  unfold free
  split <;> rfl

omit [TimeScale τ] in
theorem free_locked (h : Host τ) (x : Held τ) (i : Nat) :
    (h.free x).locked i = if x.client = i then false else h.locked i := by
  unfold locked
  rw [client?_free]
  rcases h.client? i with _ | c
  · simp
  · simp only [Option.map_some, Option.any_some]
    split_ifs <;> rfl

end Landing

/-! ## Taking off -/

section Calls

variable {h h' : Host τ} {i : Nat} {c : Client τ} {mode : SyncMode τ} {caller : Caller}

omit [TimeScale τ] in
theorem begun_locked (hc : h.client? i = some c) (j : Nat) :
    (h.begun i c).locked j = if i = j then true else h.locked j :=
  locked_setClient hc { c with syncing := true } j

/-- A call that is at an end leaves the flight as it was. -/
theorem callSync_sameFlight (hc : h.client? i = some c) {e : SyncEnd}
    (hcall : h.callSync i mode caller = (h', some e)) : SameFlight h h' := by
  have hcases := callSync_cases hc mode caller
  rw [hcall] at hcases
  cases hcases with
  | refused | skipped => exact .refl h
  | @requested notices _ ho hr =>
    have hfree := (syncObstacle?_eq_none_iff.1 ho).2
    have hn : (h.note notices).client? i = some c := hc
    cases hr with
    | answered =>
      refine ⟨fun j => by rw [inFlight, endSync_held]; rfl, fun j => ?_⟩
      rw [endSync_locked, begun_locked hn]
      split_ifs with hij
      · rw [← hij, locked_eq hc, hfree]
      · rfl
    | givenUp =>
      refine ⟨fun j => rfl, fun j => ?_⟩
      rw [locked_setClient (client?_begun hn), begun_locked hn]
      split_ifs with hij
      · rw [← hij, locked_eq hc]
      · rfl

/-- A call that is held back was made while its client was free. -/
theorem SingleFlight.takeOff (hf : SingleFlight h) (hc : h.client? i = some c)
    (hcall : h.callSync i mode caller = (h', none)) : SingleFlight h' := by
  have hcases := callSync_cases hc mode caller
  rw [hcall] at hcases
  cases hcases with
  | @requested notices _ ho hr =>
    have hfree := (syncObstacle?_eq_none_iff.1 ho).2
    have hn : (h.note notices).client? i = some c := hc
    cases hr with
    | held =>
      intro j
      have hlocked : ((h.note notices).begun i c).locked j = if i = j then true else h.locked j :=
        begun_locked hn j
      have hin : (h.held.filter (·.isSyncOf j)).length = (h.locked j).toNat := hf j
      change _ = (((h.note notices).begun i c).locked j).toNat
      rw [hlocked]
      simp only [inFlight, List.filter_append, List.length_append,
        show (h.note notices).held = h.held from rfl, hin]
      by_cases hij : i = j
      · subst hij
        simp [locked_eq hc, hfree, Held.isSyncOf, Task.isEvent]
      · simp [hij, Held.isSyncOf]

theorem singleFlight_callSync (hf : SingleFlight h) (i : Nat) (mode : SyncMode τ)
    (caller : Caller) : SingleFlight (h.callSync i mode caller).1 := by
  rcases hc : h.client? i with _ | c
  · rw [callSync_of_none hc]
    exact hf
  · rcases hcall : h.callSync i mode caller with ⟨h', _ | e⟩
    · exact hf.takeOff hc hcall
    · exact (callSync_sameFlight hc hcall).singleFlight hf

end Calls

/-! ## Steps -/

theorem singleFlight_build {h : Host τ} {c : Client τ} (hf : SingleFlight h) (hn : c.IsNew) :
    SingleFlight { h with clients := h.clients ++ [c] } := by
  obtain ⟨settings, snapshot, lastSync, rfl⟩ := hn.fresh
  refine SameFlight.singleFlight (h := h) ⟨fun _ => rfl, fun i => ?_⟩ hf
  simp only [locked, client?, List.getElem?_append, List.getElem?_singleton]
  split_ifs with hlt hi
  · rfl
  · rw [List.getElem?_eq_none (Nat.le_of_not_lt hlt)]
    rfl
  · rw [List.getElem?_eq_none (Nat.le_of_not_lt hlt)]

theorem singleFlight_step {h h' : Host τ} (hs : Step h h') (hf : SingleFlight h) :
    SingleFlight h' := by
  cases hs with
  | surroundings hc hh => exact (sameFlight_of_same hc hh).singleFlight hf
  | build hn => exact singleFlight_build hf hn
  | detect userAgent referrer hc => exact SameFlight.singleFlight (sameFlight_setClient hc _ rfl) hf
  | detectBot userAgent hc => exact SameFlight.singleFlight (sameFlight_setClient hc _ rfl) hf
  | install d hc => exact SameFlight.singleFlight (sameFlight_setClient hc _ rfl) hf
  | mark lastSync hc => exact SameFlight.singleFlight (sameFlight_setClient hc _ rfl) hf
  | report i d v => exact (sameFlight_report h i d v).singleFlight hf
  | start i => exact (sameFlight_start h i).singleFlight hf
  | stop i hasTime => exact (sameFlight_stop h i hasTime).singleFlight hf
  | send hc htake =>
    refine SameFlight.singleFlight (sameFlight_sendEvent hc ?_ _ _) hf
    rfl
  | sent hx htask =>
    exact ((inFlight_without_event hx htask).trans (sameFlight_finishEvent _ _ _ _)).singleFlight hf
  | call i mode caller => exact singleFlight_callSync hf i mode caller
  | synced hx htask => exact hf.land hx htask (endSync_held _ _ _ _) (endSync_locked _ _ _ _)
  | cancel hx htask => exact hf.land hx htask (free_held _ _) (free_locked _ _)

theorem singleFlight_steps {h h' : Host τ} (hs : Steps h h') (hf : SingleFlight h) :
    SingleFlight h' := by
  induction hs with
  | refl => exact hf
  | tail _ hstep ih => exact singleFlight_step hstep ih

/-! ## What the lock means for the next call -/

section Calls

variable {h : Host τ} {i : Nat} {c : Client τ} {mode : SyncMode τ} {caller : Caller}

/-- While a client waits for patterns, no call sends a request: a plain one and one at the endpoint are
told so, and one for a synchronisation that is due is skipped. -/
structure RefusesSync (h : Host τ) (i : Nat) (c : Client τ) : Prop where
  plain : c.settings.isConfigured = true → ∀ caller,
    h.callSync i .plain caller = (h, some (.ok (some (.error .inProgress))))
  due : ∀ now caller, h.callSync i (.whenDue now) caller = (h, some (.ok none))
  endpoint : ∀ r, MaySync c r → route i r h
    = (h.note [.manualSyncFailed "Pattern sync already in progress"],
      sent (Response.detail 502 [] "Failed to sync patterns: Pattern sync already in progress"))
  request : ∀ r, h.Alike (h.serveOwn i r).1

/-- While a client is free, a call sends one request. -/
structure TakesSync (h : Host τ) (i : Nat) (c : Client τ) : Prop where
  plain : c.settings.isConfigured = true → ∀ caller,
    (h.callSync i .plain caller).1.peer.seen = h.peer.seen ++ [c.patternsRequest]
  due : c.settings.isConfigured = true → c.settings.autoSync = true → ∀ now,
    c.isDue now = true → ∀ caller,
    (h.callSync i (.whenDue now) caller).1.peer.seen = h.peer.seen ++ [c.patternsRequest]

theorem route_of_maySync (hc : h.client? i = some c) {r : Request} (hm : MaySync c r) :
    route i r h = h.adminSync i := by
  simp [route, hm.route, hm.method, adminAnswer, hc, hm.key]

omit [TimeScale τ] in
theorem MaySync.configured {r : Request} (hm : MaySync c r) :
    c.settings.isConfigured = true := by
  have hkey := hm.key
  unfold Client.refusal? at hkey
  split_ifs at hkey with hn
  simpa using hn

theorem refusesSync (hc : h.client? i = some c) (hs : c.syncing = true) : RefusesSync h i c := by
  have hplain : c.settings.isConfigured = true → ∀ caller,
      h.callSync i .plain caller = (h, some (.ok (some (.error .inProgress)))) := by
    intro hk caller
    exact callSync_plain_of_obstacle hc (by simp [Client.syncObstacle?, hk, hs]) caller
  have hroute : ∀ r, MaySync c r → route i r h
      = (h.note [.manualSyncFailed "Pattern sync already in progress"],
        sent (Response.detail 502 []
          "Failed to sync patterns: Pattern sync already in progress")) := by
    intro r hm
    rw [route_of_maySync hc hm]
    simp only [adminSync, sync, hplain hm.configured, Option.getD_some]
    rfl
  refine ⟨hplain, fun now caller => ?_, hroute, fun r => ?_⟩
  · simp [callSync, hc, Client.wantsSync, hs]
  · rw [serveOwn_host]
    rcases alike_serve h i r (route i r) with ha | ⟨h₁, ha, hb⟩
    · exact ha
    · refine ha.trans (Alike.trans ?_ hb)
      obtain ⟨c₁, hc₁, hac⟩ := ha.client hc
      rcases route_cases h₁ i r with heq | ⟨c₀, hc₀, hm, heq⟩
      · rw [heq]
        exact .refl h₁
      · rw [hc₁, Option.some.injEq] at hc₀
        subst hc₀
        have hobstacle : c₁.syncObstacle? = some .inProgress := by
          simp [Client.syncObstacle?, hm.configured, hac.syncing, hs]
        rw [heq]
        simp only [adminSync, sync, callSync_plain_of_obstacle hc₁ hobstacle, Option.getD_some]
        exact (Alike.refl h₁).note _

omit [TimeScale τ] in
theorem begun_seen (h : Host τ) (i : Nat) (c : Client τ) :
    (h.begun i c).peer.seen = h.peer.seen ++ [c.patternsRequest] := Peer.take_seen _ _

theorem Requested.seen {result : Host τ × Option SyncEnd}
    (hr : Requested h i c mode caller result) :
    result.1.peer.seen = h.peer.seen ++ [c.patternsRequest] := by
  cases hr with
  | answered => rw [endSync_peer, begun_seen]
  | givenUp => exact begun_seen h i c
  | held => exact begun_seen h i c

theorem requestSync_seen (h : Host τ) (i : Nat) (c : Client τ) (mode : SyncMode τ)
    (caller : Caller) :
    (h.requestSync i c mode caller).1.peer.seen = h.peer.seen ++ [c.patternsRequest] :=
  (requestSync_cases h i c mode caller).seen

theorem takesSync (hc : h.client? i = some c) (hs : c.syncing = false) : TakesSync h i c where
  plain hk caller := by
    rw [callSync_plain hc (by simp [Client.syncObstacle?, hk, hs])]
    exact requestSync_seen h i c .plain caller
  due hk ha now hdue caller := by
    have hw : c.wantsSync now = true := by simp [Client.wantsSync, hk, ha, hdue, hs]
    simp only [callSync, hc, hw, ↓reduceIte]
    exact requestSync_seen _ i c _ caller

/-- A client is free and waits for nothing, and the next call sends its request. -/
def Ready (h : Host τ) (i : Nat) : Prop :=
  ∃ c, h.client? i = some c ∧ c.syncing = false ∧ h.inFlight i = [] ∧ TakesSync h i c

omit [TimeScale τ] in
theorem SingleFlight.inFlight_eq_nil_iff (hf : SingleFlight h) (hc : h.client? i = some c) :
    h.inFlight i = [] ↔ c.syncing = false := by
  have hi := hf i
  rw [locked_eq hc] at hi
  rw [← List.length_eq_zero_iff, hi]
  cases c.syncing <;> simp

theorem SingleFlight.ready (hf : SingleFlight h) (hc : h.client? i = some c)
    (hs : c.syncing = false) : Ready h i :=
  ⟨c, hc, hs, (hf.inFlight_eq_nil_iff hc).2 hs, takesSync hc hs⟩

/-- However the one synchronisation ends that a client waits for, the next one can begin. -/
theorem SingleFlight.ready_of_end (hf : SingleFlight h) (hc : h.client? i = some c)
    {before after : List (Held τ)} {x : Held τ} (hx : h.held = before ++ x :: after)
    (hsync : x.isSyncOf i = true) :
    Ready ({ h with held := before ++ after }.resume x) i
      ∧ Ready ({ h with held := before ++ after }.free x) i := by
  obtain ⟨client, task, outcome⟩ := x
  rcases task with worker | ⟨mode, caller⟩
  · simp [Held.isSyncOf, Task.isEvent] at hsync
  · obtain rfl : client = i := by simpa [Held.isSyncOf, Task.isEvent] using hsync
    have hc₁ : { h with held := before ++ after }.client? client = some c := hc
    constructor
    · obtain ⟨c', hc', hs', -⟩ := resume_allOrNothing hc₁ mode caller outcome
      exact (singleFlight_steps (steps_resume hx) hf).ready hc' hs'
    · have hfree := singleFlight_step (.cancel hx rfl) hf
      have hc' := client?_free { h with held := before ++ after }
        { client, task := .sync mode caller, outcome } client
      rw [hc₁, Option.map_some, if_pos rfl] at hc'
      exact hfree.ready hc' rfl

theorem SingleFlight.ready_of_cancel (hf : SingleFlight h) (hc : h.client? i = some c)
    {x : Held τ} (hx : x ∈ h.inFlight i) {whose : Caller → Bool}
    (hwhose : x.isSyncFor whose = true) : Ready (h.cancel whose) i := by
  obtain ⟨hmem, hsync⟩ := List.mem_filter.1 hx
  obtain ⟨client, task, outcome⟩ := x
  rcases task with worker | ⟨mode, caller⟩
  · simp [Held.isSyncOf, Task.isEvent] at hsync
  · obtain rfl : client = i := by simpa [Held.isSyncOf, Task.isEvent] using hsync
    obtain ⟨c', hc', -, hfree⟩ := cancel_unchanged hc whose
    exact (singleFlight_steps (steps_cancel h whose) hf).ready hc'
      (hfree mode caller outcome hmem hwhose)

/-- At every moment a client waits for at most one request for patterns, and it is locked exactly while
it waits for one. As long as it does, no call sends a request or changes anything. Otherwise a call sends
one, and however that ends, at once, by an answer that is let go or by a cancellation, the client is ready
for the next call. -/
theorem single_flight {h₀ : Host τ} (hheld : h₀.held = [])
    (hfree : ∀ c ∈ h₀.clients, c.syncing = false) (hs : Steps h₀ h) (hc : h.client? i = some c) :
    ((h.inFlight i).length ≤ 1 ∧ (c.syncing = true ↔ h.inFlight i ≠ []))
      ∧ (h.inFlight i ≠ [] → RefusesSync h i c)
      ∧ (h.inFlight i = [] → TakesSync h i c
        ∧ ∀ mode caller h' e, h.callSync i mode caller = (h', some e) → Ready h' i)
      ∧ (∀ before x after, h.held = before ++ x :: after → x.isSyncOf i = true →
        Ready ({ h with held := before ++ after }.resume x) i
          ∧ Ready ({ h with held := before ++ after }.free x) i)
      ∧ ∀ x ∈ h.inFlight i, ∀ whose, x.isSyncFor whose = true → Ready (h.cancel whose) i := by
  have hf : SingleFlight h := singleFlight_steps hs (singleFlight_of_free hheld hfree)
  have hnil := hf.inFlight_eq_nil_iff hc
  have hlocked : c.syncing = true ↔ h.inFlight i ≠ [] := by
    rw [Ne, hnil, Bool.not_eq_false]
  refine ⟨⟨?_, hlocked⟩, fun hw => refusesSync hc (hlocked.2 hw), fun hn =>
    ⟨takesSync hc (hnil.1 hn), fun mode caller h' e hcall => ?_⟩,
    fun before x after hx hsync => hf.ready_of_end hc hx hsync,
    fun x hx whose hwhose => hf.ready_of_cancel hc hx hwhose⟩
  · rw [hf i]
    exact Bool.toNat_le _
  · obtain ⟨c', hc', hs', -⟩ := callSync_allOrNothing hc hcall
    exact ((callSync_sameFlight hc hcall).singleFlight hf).ready hc' (hs'.trans (hnil.1 hn))

end Calls

/-- A host whose client waits for patterns. -/
def waitingHost : Host Micros :=
  ((answering [{ outcome := .response 200 [], held := true }]).act (.sync true)).1

/-- Of two calls for a synchronisation the second is refused, and when the first one has its answer, or
is cancelled, the next one can begin. -/
theorem refused_while_waiting : ∃ c x, waitingHost.client? 0 = some c ∧ c.syncing = true
    ∧ (∀ caller, waitingHost.callSync 0 .plain caller
      = (waitingHost, some (.ok (some (.error .inProgress)))))
    ∧ waitingHost.held = [x]
    ∧ Ready ({ waitingHost with held := [] }.resume x) 0
    ∧ Ready ({ waitingHost with held := [] }.free x) 0 := by
  obtain ⟨c, hc, hk⟩ : ∃ c, waitingHost.client? 0 = some c ∧ c.settings.isConfigured = true :=
    ⟨_, rfl, rfl⟩
  obtain ⟨x, hx, hsync⟩ : ∃ x, waitingHost.held = [] ++ [x] ∧ x.isSyncOf 0 = true := ⟨_, rfl, rfl⟩
  have hfree : ∀ c ∈ (answering [{ outcome := .response 200 [], held := true }]).clients,
      c.syncing = false := by simp [answering]
  obtain ⟨⟨-, hlocked⟩, hrefuses, -, hends, -⟩ := single_flight rfl hfree (steps_act _ _) hc
  have hflight : waitingHost.inFlight 0 ≠ [] := by simp [inFlight, hx, hsync]
  exact ⟨c, x, hc, hlocked.2 hflight, (hrefuses hflight).plain hk, hx, hends [] x [] hx hsync⟩

end Host

end BotSentry
