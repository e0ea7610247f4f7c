import BotSentry.Proofs.Reports

/-!
# What traffic depends on

What a client makes of a user agent, a referrer or a request depends on its settings and its dataset
(`Client.Agree`), and on the time only if that cannot be written into a report
(`TimeScale.stampFault?`). Two hosts agree in this, whatever has been done with them, where their
clients have the same settings and the same dataset (`Host.agreeOn_of_run`). So they give the same
answers to the same calls (`Host.same_answers`), whatever waits in the queues of their clients, whatever
their workers, their peers and their caches are up to, and whatever else goes on behind (`Host.Behind`)
between two calls or while an application runs.
-/

namespace BotSentry

variable {τ : Type} [TimeScale τ]

/-- What is wrong with a point of time that cannot be written into an event. -/
def TimeScale.stampFault? (now : τ) : Option TimeFault :=
  match TimeScale.toDateTime now with
  | .error fault => some fault
  | .ok t =>
    match t.stampChars with
    | .error fault => some fault
    | .ok _ => none

open TimeScale

/-! ## Detections -/

namespace Engine

variable {engine engine' : Engine} {snapshot snapshot' : Snapshot}

theorem detectBot_congr (hf : engine.Faithful snapshot) (hf' : engine'.Faithful snapshot')
    (hd : snapshot'.dataset = snapshot.dataset) (userAgent : String) :
    (engine'.detectBot snapshot' userAgent).result
      = (engine.detectBot snapshot userAgent).result := by
  unfold detectBot
  split_ifs
  · rfl
  · simp only [compiled_result hf, compiled_result hf', hd]

theorem detect_congr (hf : engine.Faithful snapshot) (hf' : engine'.Faithful snapshot')
    (hd : snapshot'.dataset = snapshot.dataset) (userAgent referrer : String) :
    (engine'.detect snapshot' userAgent referrer).result
      = (engine.detect snapshot userAgent referrer).result := by
  have hbot := detectBot_congr hf hf' hd userAgent
  unfold detect
  simp only [hbot]
  split
  · simp only [detectReferrer_eq, hd]
  · exact hbot

end Engine

namespace Client

/-- Two clients have the same settings and detect by the same dataset. -/
structure Agree (c c' : Client τ) : Prop where
  settings : c'.settings = c.settings
  dataset : c'.snapshot.dataset = c.snapshot.dataset
  faithful : c.IsFaithful
  faithful' : c'.IsFaithful

section Agree

omit [TimeScale τ]

variable {c c' : Client τ}

theorem Agree.detectBot (ha : c.Agree c') (userAgent : String) :
    (c'.detectBot userAgent).2.2 = (c.detectBot userAgent).2.2
      ∧ (c.detectBot userAgent).1.Agree (c'.detectBot userAgent).1 := by
  have hbot := Engine.detectBot_congr ha.faithful ha.faithful' ha.dataset userAgent
  refine ⟨congrArg (Except.mapError Interruption.pattern) hbot, ha.settings, ha.dataset, ?_, ?_⟩
  · exact Engine.detectBot_faithful ha.faithful userAgent
  · exact Engine.detectBot_faithful ha.faithful' userAgent

theorem Agree.detect (ha : c.Agree c') (userAgent referrer : String) :
    (c'.detect userAgent referrer).2.2 = (c.detect userAgent referrer).2.2
      ∧ (c.detect userAgent referrer).1.Agree (c'.detect userAgent referrer).1 := by
  have hfound := Engine.detect_congr ha.faithful ha.faithful' ha.dataset userAgent referrer
  refine ⟨congrArg (Except.mapError Interruption.pattern) hfound, ha.settings, ha.dataset, ?_, ?_⟩
  · exact Engine.detect_faithful ha.faithful userAgent referrer
  · exact Engine.detect_faithful ha.faithful' userAgent referrer

theorem Agree.lookAt_iff (ha : c.Agree c') (path : List Char) :
    c'.LooksAt path ↔ c.LooksAt path := by
  rw [LooksAt, LooksAt, ha.settings]

end Agree

end Client

namespace Host

/-! ## What goes on behind -/

/-- What goes on behind the traffic: the workers of any client take events and send them, clients
are started, stopped and told of visits, and everything around the clients changes but the clock. -/
inductive Behind : Host τ → Host τ → Prop
  | around {h h' : Host τ} : h'.clients = h.clients → h'.clock = h.clock → Behind h h'
  | report (h : Host τ) (j : Nat) (d : Detection) (v : Visit) : Behind h (h.report j d v).1
  | start (h : Host τ) (j : Nat) : Behind h (h.start j)
  | stop (h : Host τ) (j : Nat) (hasTime : Bool) : Behind h (h.stop j hasTime)
  /-- A worker takes an event and sends it. -/
  | send {h : Host τ} {j worker : Nat} {c : Client τ} {e : Event} {r : Reporter} :
      h.client? j = some c → c.reporter.Takes worker e r →
      Behind h (h.sendEvent j worker { c with reporter := r } e)
  /-- The sending of an event comes to its end. -/
  | sent (h : Host τ) (j worker : Nat) (outcome : Outcome) :
      Behind h (h.finishEvent j worker outcome)

/-- Nothing is different in the clock and in the clients but their reporters. -/
structure Unseen (h h' : Host τ) : Prop where
  clock : h'.clock = h.clock
  client : ∀ i, ∃ r : Reporter, h'.client? i = (h.client? i).map fun c => { c with reporter := r }

section Unseen

variable {h h' : Host τ} {j : Nat} {c : Client τ}

omit [TimeScale τ] in
theorem unseen_of_same (hclients : h'.clients = h.clients) (hclock : h'.clock = h.clock) :
    h.Unseen h' := by
  refine ⟨hclock, fun i => ?_⟩
  rw [client?, hclients, ← client?]
  rcases h.client? i with _ | c
  · exact ⟨{}, rfl⟩
  · exact ⟨c.reporter, rfl⟩

omit [TimeScale τ] in
theorem Unseen.trans {h'' : Host τ} (h₁ : h.Unseen h') (h₂ : h'.Unseen h'') : h.Unseen h'' := by
  refine ⟨h₂.clock.trans h₁.clock, fun i => ?_⟩
  obtain ⟨r₁, hr₁⟩ := h₁.client i
  obtain ⟨r₂, hr₂⟩ := h₂.client i
  refine ⟨r₂, ?_⟩
  rw [hr₂, hr₁, Option.map_map]
  rfl

omit [TimeScale τ] in
theorem unseen_setClient (hc : h.client? j = some c) (r : Reporter) :
    h.Unseen (h.setClient j { c with reporter := r }) := by
  refine ⟨rfl, fun i => ?_⟩
  by_cases hij : i = j
  · subst hij
    exact ⟨r, by rw [client?_setClient_self hc, hc]; rfl⟩
  · obtain ⟨r', hr'⟩ := (unseen_of_same rfl rfl : h.Unseen h).client i
    exact ⟨r', by rw [client?_setClient_of_ne hij, ← hr']⟩

omit [TimeScale τ] in
theorem unseen_finishEvent (h : Host τ) (j worker : Nat) (outcome : Outcome) :
    h.Unseen (h.finishEvent j worker outcome) := by
  rcases hc : h.client? j with _ | c
  · rw [finishEvent_of_none hc]
    exact unseen_of_same rfl rfl
  · rw [finishEvent_eq hc]
    exact (unseen_setClient hc _).trans (unseen_of_same rfl rfl)

omit [TimeScale τ] in
theorem unseen_sendEvent (hc : h.client? j = some c) (r : Reporter) (worker : Nat) (e : Event) :
    h.Unseen (h.sendEvent j worker { c with reporter := r } e) := by
  have hset := unseen_setClient hc r
  have hcases := sendEvent_cases h j worker { c with reporter := r } e
  generalize h.sendEvent j worker { c with reporter := r } e = h' at hcases ⊢
  cases hcases with
  | unwritten => exact unseen_setClient hc _
  | answered =>
    have hposted : h.Unseen (h.posted j { c with reporter := r } e) :=
      hset.trans (unseen_of_same rfl rfl)
    exact hposted.trans (unseen_finishEvent _ j worker _)
  | held => exact hset.trans (unseen_of_same rfl rfl)

theorem unseen_report (h : Host τ) (j : Nat) (d : Detection) (v : Visit) :
    h.Unseen (h.report j d v).1 := by
  rcases hc : h.client? j with _ | c
  · exact unseen_of_same (by simp only [report, hc]) (by simp only [report, hc])
  · have hcases := report_cases hc d v
    generalize h.report j d v = reported at hcases ⊢
    cases hcases with
    | skipped | undated => exact unseen_of_same rfl rfl
    | queued => exact unseen_setClient hc _
    | full => exact (unseen_setClient hc _).trans (unseen_of_same rfl rfl)

theorem unseen_of_behind (hb : Behind h h') : h.Unseen h' := by
  cases hb with
  | around hclients hclock => exact unseen_of_same hclients hclock
  | report j d v => exact unseen_report h j d v
  | start j =>
    unfold start
    split
    · exact unseen_of_same rfl rfl
    · rename_i c hc
      exact (unseen_setClient hc _).trans (unseen_of_same rfl rfl)
  | stop j hasTime =>
    unfold stop
    split
    · exact unseen_of_same rfl rfl
    · rename_i c hc
      split
      · exact unseen_of_same rfl rfl
      · exact (unseen_setClient hc _).trans (unseen_of_same rfl rfl)
  | send hc htake => exact unseen_sendEvent hc _ _ _
  | sent j worker outcome => exact unseen_finishEvent h j worker outcome

end Unseen

/-! ## Hosts that agree -/

/-- The clients of two hosts at one place agree, if there are any, and the clocks differ at most
between times that can be written into an event. -/
structure AgreeOn (i : Nat) (h h' : Host τ) : Prop where
  clock : stampFault? h'.clock = stampFault? h.clock
  client : Option.Rel Client.Agree (h.client? i) (h'.client? i)

/-- Two applications answer alike and keep hosts alike that agree. -/
def SameApp (i : Nat) (app app' : App τ) : Prop :=
  ∀ h h' : Host τ, AgreeOn i h h' →
    (app' h').2 = (app h).2 ∧ AgreeOn i (app h).1 (app' h').1

section AgreeOn

variable {h h' : Host τ} {i : Nat} {c c' : Client τ}

theorem AgreeOn.unseen {h₁ h₁' : Host τ} (ha : AgreeOn i h h') (hu : h.Unseen h₁)
    (hu' : h'.Unseen h₁') : AgreeOn i h₁ h₁' := by
  obtain ⟨r, hr⟩ := hu.client i
  obtain ⟨r', hr'⟩ := hu'.client i
  refine ⟨by rw [hu.clock, hu'.clock, ha.clock], ?_⟩
  rw [hr, hr']
  have hclient := ha.client
  generalize h.client? i = x at hclient ⊢
  generalize h'.client? i = x' at hclient ⊢
  cases hclient with
  | none => exact .none
  | some hc => exact .some ⟨hc.settings, hc.dataset, hc.faithful, hc.faithful'⟩

theorem AgreeOn.client_cases (ha : AgreeOn i h h') :
    h.client? i = none ∧ h'.client? i = none
      ∨ ∃ c c', h.client? i = some c ∧ h'.client? i = some c' ∧ c.Agree c' := by
  have hclient := ha.client
  generalize h.client? i = x at hclient ⊢
  generalize h'.client? i = x' at hclient ⊢
  cases hclient with
  | none => exact .inl ⟨rfl, rfl⟩
  | some hagree => exact .inr ⟨_, _, rfl, rfl, hagree⟩

theorem AgreeOn.note (ha : AgreeOn i h h') (notices notices' : List Notice) :
    AgreeOn i (h.note notices) (h'.note notices') := ⟨ha.clock, ha.client⟩

theorem AgreeOn.setClient (ha : AgreeOn i h h') (hc : h.client? i = some c)
    (hc' : h'.client? i = some c') {c₁ c₁' : Client τ} (hagree : c₁.Agree c₁') :
    AgreeOn i (h.setClient i c₁) (h'.setClient i c₁') := by
  refine ⟨ha.clock, ?_⟩
  rw [client?_setClient_self hc, client?_setClient_self hc']
  exact .some hagree

/-- Whatever has been done with two hosts, they agree where clients have the same settings and the
same dataset. -/
theorem agreeOn_of_run (hnew : ∀ j c, h.client? j = some c → c.engine.memo = none)
    (hnew' : ∀ j c, h'.client? j = some c → c.engine.memo = none)
    {actions actions' : List (Action τ)} (hc : (h.run actions).client? i = some c)
    (hc' : (h'.run actions').client? i = some c') (hsettings : c'.settings = c.settings)
    (hdataset : c'.snapshot.dataset = c.snapshot.dataset)
    (hclock : stampFault? (h'.run actions').clock = stampFault? (h.run actions).clock) :
    AgreeOn i (h.run actions) (h'.run actions') := by
  have hfaithful := faithful_run hnew actions i c hc
  have hfaithful' := faithful_run hnew' actions' i c' hc'
  refine ⟨hclock, ?_⟩
  rw [hc, hc']
  exact .some ⟨hsettings, hdataset, hfaithful, hfaithful'⟩

/-- Applications are the same if they always answer alike, and leave nothing behind but what goes on
behind the traffic. -/
theorem sameApp_of_unseen {app app' : App τ} (result : Except Interruption Response)
    (happ : ∀ h, h.Unseen (app h).1 ∧ (app h).2 = result)
    (happ' : ∀ h, h.Unseen (app' h).1 ∧ (app' h).2 = result) : SameApp i app app' := by
  intro h h' ha
  obtain ⟨hu, hresult⟩ := happ h
  obtain ⟨hu', hresult'⟩ := happ' h'
  exact ⟨by rw [hresult, hresult'], ha.unseen hu hu'⟩

/-! ### Reports -/

theorem event_eq_error_iff (c : Client τ) (d : Detection) (v : Visit) (now : τ)
    (fault : TimeFault) : c.event d v now = .error fault ↔ stampFault? now = some fault := by
  unfold Client.event stampFault?
  rcases toDateTime now with f | t
  · simp
  · rcases hcs : t.stampChars with f | cs <;> simp [Event.ofVisit, hcs, Except.map]

/-- How a report about something detected ends, apart from whether its event is queued. -/
def reportEnd (settings : Settings) (d : Detection) (now : τ) : Except Interruption Unit :=
  if settings.isConfigured && d.detected then
    match stampFault? now with
    | some fault => .error (.time fault)
    | none => .ok ()
  else .ok ()

theorem report_end (hc : h.client? i = some c) (d : Detection) (v : Visit) :
    (h.report i d v).2.map (fun _ => ()) = reportEnd c.settings d h.clock := by
  have hcases := report_cases hc d v
  generalize h.report i d v = reported at hcases ⊢
  unfold reportEnd
  cases hcases with
  | skipped hskip =>
    rw [if_neg (by rcases hskip with hskip | hskip <;> simp [hskip])]
    rfl
  | undated hkey hd he =>
    rw [if_pos (by rw [hkey, hd]; rfl), (event_eq_error_iff c d v h.clock _).1 he]
    rfl
  | queued hkey hd he | full hkey hd he =>
    have hnone : stampFault? h.clock = none := by
      rcases hf : stampFault? h.clock with _ | fault
      · rfl
      · rw [(event_eq_error_iff c d v h.clock fault).2 hf] at he
        cases he
    rw [if_pos (by rw [hkey, hd]; rfl), hnone]
    rfl

/-- Whether a report is interrupted is a matter of the time, and not of the queue. -/
theorem AgreeOn.report (ha : AgreeOn i h h') (d : Detection) (v v' : Visit) :
    (h'.report i d v').2.map (fun _ => ()) = (h.report i d v).2.map (fun _ => ())
      ∧ AgreeOn i (h.report i d v).1 (h'.report i d v').1 := by
  -- Room in the queue makes the difference between `ok true` and `ok false`, which nobody looks at.
  refine ⟨?_, ha.unseen (unseen_report h i d v) (unseen_report h' i d v')⟩
  rcases ha.client_cases with ⟨hc, hc'⟩ | ⟨c, c', hc, hc', hagree⟩
  · simp only [Host.report, hc, hc']
  · rw [report_end hc, report_end hc', hagree.settings, reportEnd, ha.clock, ← reportEnd]

/-! ### Requests -/

theorem deny_eq (h : Host τ) (i : Nat) (r : Request) (l : Location) (d : Detection) :
    ∃ notices, h.deny i r l d = (((h.note notices).report i d (r.visit l 403 0)).1,
      afterReport .interrupted { response := some .denied }
        ((h.note notices).report i d (r.visit l 403 0)).2) := by
  refine ⟨[.requestBlocked d.kind.name d.pattern (String.ofList l.path) r.clientAddress], ?_⟩
  unfold Host.deny
  dsimp only
  rcases (h.note _).report i d (r.visit l 403 0) with ⟨h', e | queued⟩ <;> rfl

omit [TimeScale τ] in
theorem afterReport_congr {x x' : Except Interruption Bool}
    (hend : x'.map (fun _ => ()) = x.map (fun _ => ())) (failed : Interruption → Handled)
    (done : Handled) : afterReport failed done x' = afterReport failed done x := by
  rcases x with e | queued <;> rcases x' with e' | queued'
  · obtain rfl := Except.error.inj hend
    rfl
  · cases hend
  · cases hend
  · rfl

theorem AgreeOn.deny (ha : AgreeOn i h h') (r : Request) (l : Location) (d : Detection) :
    (h'.deny i r l d).2 = (h.deny i r l d).2
      ∧ AgreeOn i (h.deny i r l d).1 (h'.deny i r l d).1 := by
  obtain ⟨notices, hdeny⟩ := deny_eq h i r l d
  obtain ⟨notices', hdeny'⟩ := deny_eq h' i r l d
  obtain ⟨hend, hagree⟩ := (ha.note notices notices').report d (r.visit l 403 0) (r.visit l 403 0)
  rw [hdeny, hdeny']
  exact ⟨afterReport_congr hend _ _, hagree⟩

theorem AgreeOn.letThrough (ha : AgreeOn i h h') {app app' : App τ} (happ : SameApp i app app')
    (r : Request) (l : Location) (d : Detection) :
    (h'.letThrough i r l d app').2 = (h.letThrough i r l d app).2
      ∧ AgreeOn i (h.letThrough i r l d app).1 (h'.letThrough i r l d app').1 := by
  obtain ⟨hanswer, hagree⟩ := happ h h' ha
  rcases hd : d.detected with _ | _
  · rw [letThrough_of_not_detected hd, letThrough_of_not_detected hd, hanswer]
    exact ⟨rfl, hagree⟩
  · obtain ⟨elapsed, he⟩ := letThrough_eq hd h i r l app
    obtain ⟨elapsed', he'⟩ := letThrough_eq hd h' i r l app'
    rw [he, he', hanswer]
    obtain ⟨hend, hreported⟩ := hagree.report d (r.visit l (statusOf (app h).2) elapsed)
      (r.visit l (statusOf (app h).2) elapsed')
    exact ⟨afterReport_congr hend _ _, hreported⟩

theorem AgreeOn.examine (ha : AgreeOn i h h') (hc : h.client? i = some c)
    (hc' : h'.client? i = some c') (hagree : c.Agree c') {app app' : App τ}
    (happ : SameApp i app app') (r : Request) (l : Location) :
    (h'.examine i c' r l app').2 = (h.examine i c r l app).2
      ∧ AgreeOn i (h.examine i c r l app).1 (h'.examine i c' r l app').1 := by
  obtain ⟨hfound, hdetected⟩ := hagree.detect r.userAgent (r.referrer?.getD "")
  have hsearched : AgreeOn i (h.searched i c r) (h'.searched i c' r) :=
    (ha.setClient hc hc' hdetected).note _ _
  unfold Host.examine
  simp only [hfound]
  split
  · exact ⟨rfl, hsearched⟩
  · split
    · exact hsearched.deny r l _
    · exact hsearched.letThrough happ r l _

/-- Hosts that agree serve a request alike. -/
theorem AgreeOn.serve (ha : AgreeOn i h h') {app app' : App τ} (happ : SameApp i app app')
    (r : Request) : (h'.serve i r app').2 = (h.serve i r app).2
      ∧ AgreeOn i (h.serve i r app).1 (h'.serve i r app').1 := by
  have hpass : ((app' h').1, Handled.ofApp (app' h').2).2 = ((app h).1, Handled.ofApp (app h).2).2
      ∧ AgreeOn i ((app h).1, Handled.ofApp (app h).2).1
        ((app' h').1, Handled.ofApp (app' h').2).1 := by
    obtain ⟨hanswer, hagree⟩ := happ h h' ha
    exact ⟨congrArg Handled.ofApp hanswer, hagree⟩
  rcases hhttp : r.isHttp with _ | _
  · simp only [Host.serve, hhttp, Bool.not_false, ↓reduceIte]
    exact hpass
  · rcases hl : Location.ofRequest r with fault | l
    · rw [serve_of_fault hhttp hl, serve_of_fault hhttp hl]
      exact ⟨rfl, ha⟩
    · rcases ha.client_cases with ⟨hc, hc'⟩ | ⟨c, c', hc, hc', hagree⟩
      · simp only [Host.serve, hhttp, hl, hc, hc', Bool.not_true, Bool.false_eq_true, ↓reduceIte]
        exact hpass
      · obtain ⟨hskip, hlook⟩ := serve_of_location hc hhttp hl app
        obtain ⟨hskip', hlook'⟩ := serve_of_location hc' hhttp hl app'
        by_cases hlooks : c.LooksAt l.path
        · rw [hlook hlooks, hlook' ((hagree.lookAt_iff l.path).2 hlooks)]
          exact ha.examine hc hc' hagree happ r l
        · rw [hskip hlooks, hskip' fun hlooks' => hlooks ((hagree.lookAt_iff l.path).1 hlooks')]
          exact hpass

end AgreeOn

/-! ## Sequences of calls -/

/-- What a client can be asked for by traffic, and the passing of time. -/
inductive Call (τ : Type) where
  | detect (userAgent referrer : String)
  | detectBot (userAgent : String)
  | detectReferrer (referrer : String)
  | serve (r : Request) (app : App τ)
  /-- It gets later. -/
  | wait (now : τ)

inductive Call.Answer where
  | nothing
  | found (found : Except Interruption Detection)
  | handled (handled : Handled)

/-- A detection by the client at some place. -/
def detectAt (h : Host τ) (i : Nat)
    (f : Client τ → Client τ × List Notice × Except Interruption Detection) :
    Host τ × Call.Answer :=
  match h.client? i with
  | none => (h, .nothing)
  | some c =>
    let (c, notices, found) := f c
    ((h.setClient i c).note notices, .found found)

/-- The answer to one call, from the client at some place. -/
def answer (h : Host τ) (i : Nat) : Call τ → Host τ × Call.Answer
  | .detect userAgent referrer => h.detectAt i (·.detect userAgent referrer)
  | .detectBot userAgent => h.detectAt i (·.detectBot userAgent)
  | .detectReferrer referrer => h.detectAt i fun c => (c, [], .ok (c.detectReferrer referrer))
  | .serve r app =>
    let (h, handled) := h.serve i r app
    (h, .handled handled)
  | .wait now => ({ h with clock := now }, .nothing)

/-- Two calls ask for the same, of applications that answer alike. -/
inductive SameCall (i : Nat) : Call τ → Call τ → Prop
  | detect (userAgent referrer : String) :
      SameCall i (.detect userAgent referrer) (.detect userAgent referrer)
  | detectBot (userAgent : String) : SameCall i (.detectBot userAgent) (.detectBot userAgent)
  | detectReferrer (referrer : String) :
      SameCall i (.detectReferrer referrer) (.detectReferrer referrer)
  | serve (r : Request) {app app' : App τ} : SameApp i app app' →
      SameCall i (.serve r app) (.serve r app')
  | wait {now now' : τ} : stampFault? now' = stampFault? now → SameCall i (.wait now) (.wait now')

/-- Some calls, one after the other, with their answers; anything goes on behind before each and
after the last. -/
inductive Session (i : Nat) : Host τ → List (Call τ) → List Call.Answer → Host τ → Prop
  | done (h : Host τ) : Session i h [] [] h
  | behind {h h₁ h₂ : Host τ} {calls : List (Call τ)} {answers : List Call.Answer} : Behind h h₁ →
      Session i h₁ calls answers h₂ → Session i h calls answers h₂
  | call {h h₂ : Host τ} {call : Call τ} {calls : List (Call τ)} {answers : List Call.Answer} :
      Session i (h.answer i call).1 calls answers h₂ →
      Session i h (call :: calls) ((h.answer i call).2 :: answers) h₂

/-- Some calls have these answers and no others, whatever goes on behind. -/
def AnswersOnly (h : Host τ) (i : Nat) (calls : List (Call τ)) (answers : List Call.Answer) :
    Prop :=
  (∃ h₂, Session i h calls answers h₂)
    ∧ ∀ others h₂, Session i h calls others h₂ → others = answers

section Session

variable {h h' : Host τ} {i : Nat}

theorem AgreeOn.detectAt (ha : AgreeOn i h h')
    {f : Client τ → Client τ × List Notice × Except Interruption Detection}
    (hf : ∀ c c' : Client τ, c.Agree c' → (f c').2.2 = (f c).2.2 ∧ (f c).1.Agree (f c').1) :
    (h'.detectAt i f).2 = (h.detectAt i f).2
      ∧ AgreeOn i (h.detectAt i f).1 (h'.detectAt i f).1 := by
  unfold Host.detectAt
  rcases ha.client_cases with ⟨hc, hc'⟩ | ⟨c, c', hc, hc', hagree⟩
  · rw [hc, hc']
    exact ⟨rfl, ha⟩
  · obtain ⟨hfound, hdetected⟩ := hf c c' hagree
    simp only [hc, hc']
    exact ⟨congrArg Call.Answer.found hfound, (ha.setClient hc hc' hdetected).note _ _⟩

theorem AgreeOn.answer (ha : AgreeOn i h h') {call call' : Call τ} (hsame : SameCall i call call') :
    (h'.answer i call').2 = (h.answer i call).2
      ∧ AgreeOn i (h.answer i call).1 (h'.answer i call').1 := by
  cases hsame with
  | detect userAgent referrer => exact ha.detectAt fun _ _ hc => hc.detect userAgent referrer
  | detectBot userAgent => exact ha.detectAt fun _ _ hc => hc.detectBot userAgent
  | detectReferrer referrer =>
    refine ha.detectAt fun c c' hc => ⟨?_, hc⟩
    simp only [Client.detectReferrer, Engine.detectReferrer_eq, hc.dataset]
  | serve r happ =>
    obtain ⟨hhandled, hagree⟩ := ha.serve happ r
    exact ⟨congrArg Call.Answer.handled hhandled, hagree⟩
  | wait hstamp => exact ⟨rfl, hstamp, ha.client⟩

theorem Session.of_nil {answers : List Call.Answer} {h₂ : Host τ} (hs : Session i h [] answers h₂) :
    answers = [] ∧ h.Unseen h₂ := by
  generalize hcalls : ([] : List (Call τ)) = calls at hs
  induction hs with
  | done h => exact ⟨rfl, unseen_of_same rfl rfl⟩
  | behind hb _ ih =>
    obtain ⟨hanswers, hu⟩ := ih hcalls
    exact ⟨hanswers, (unseen_of_behind hb).trans hu⟩
  | call => cases hcalls

theorem Session.of_cons {call : Call τ} {calls : List (Call τ)} {answers : List Call.Answer}
    {h₂ : Host τ} (hs : Session i h (call :: calls) answers h₂) : ∃ h₁ rest, h.Unseen h₁
      ∧ answers = (h₁.answer i call).2 :: rest ∧ Session i (h₁.answer i call).1 calls rest h₂ := by
  generalize hcalls : call :: calls = all at hs
  induction hs with
  | done => cases hcalls
  | behind hb _ ih =>
    obtain ⟨h₁, rest, hu, hanswers, hrest⟩ := ih hcalls
    exact ⟨h₁, rest, (unseen_of_behind hb).trans hu, hanswers, hrest⟩
  | call hrest =>
    cases hcalls
    exact ⟨_, _, unseen_of_same rfl rfl, rfl, hrest⟩

theorem exists_session (i : Nat) : ∀ (calls : List (Call τ)) (h : Host τ),
    ∃ answers h₂, Session i h calls answers h₂
  | [], h => ⟨[], h, .done h⟩
  | call :: calls, h => by
    obtain ⟨answers, h₂, hs⟩ := exists_session i calls (h.answer i call).1
    exact ⟨_, h₂, .call hs⟩

theorem AgreeOn.session {h₂ h₂' : Host τ} {calls calls' : List (Call τ)}
    {answers answers' : List Call.Answer} (ha : AgreeOn i h h')
    (hcalls : List.Forall₂ (SameCall i) calls calls') (hs : Session i h calls answers h₂)
    (hs' : Session i h' calls' answers' h₂') : answers' = answers ∧ AgreeOn i h₂ h₂' := by
  -- By induction on the one session; of the other, its next call and what goes on before matter.
  induction hs generalizing h' calls' answers' with
  | done h =>
    cases hcalls
    obtain ⟨hanswers, hu⟩ := hs'.of_nil
    exact ⟨hanswers, ha.unseen (unseen_of_same rfl rfl) hu⟩
  | behind hb _ ih =>
    exact ih (ha.unseen (unseen_of_behind hb) (unseen_of_same rfl rfl)) hcalls hs'
  | call _ ih =>
    cases hcalls with
    | cons hsame hrest =>
      obtain ⟨h₁', rest, hu, rfl, hrun⟩ := hs'.of_cons
      obtain ⟨hanswer, hagree⟩ := (ha.unseen (unseen_of_same rfl rfl) hu).answer hsame
      obtain ⟨hanswers, hend⟩ := ih hagree hrest hrun
      exact ⟨by rw [hanswer, hanswers], hend⟩

/-- On two hosts with the same settings and the same dataset the same calls have the same answers,
whatever waits to be sent, whatever has been cached, and whatever goes on behind in either. -/
theorem same_answers {calls calls' : List (Call τ)} (ha : AgreeOn i h h')
    (hcalls : List.Forall₂ (SameCall i) calls calls') :
    ∃ answers, h.AnswersOnly i calls answers ∧ h'.AnswersOnly i calls' answers := by
  obtain ⟨answers, h₂, hs⟩ := exists_session i calls h
  obtain ⟨answers', h₂', hs'⟩ := exists_session i calls' h'
  obtain ⟨rfl, -⟩ := ha.session hcalls hs hs'
  refine ⟨answers', ⟨⟨h₂, hs⟩, fun others _ hothers => ?_⟩, ⟨h₂', hs'⟩, fun others _ hothers => ?_⟩
  · exact (ha.session hcalls hothers hs').1.symm
  · exact (ha.session hcalls hs hothers).1

/-- A host that blocks bots and keeps at most one event. -/
def crowded (reporter : Reporter) (cache : Cache Micros) (clock : Micros) : Host Micros where
  clock := clock
  cache := cache
  clients := [{ settings := { apiKey := "key", queueSize := 1 },
                snapshot := { dataset := .blockingBots }, lastSync := clock, reporter }]

/-- A queue that is full, with a worker that is dead. -/
def stuck : Reporter where
  waiting := [default]
  unfinished := 2
  dropped := 7
  workers := [.dead]

/-- An application that takes a second. -/
def slowPages : App Micros := FixedApp.toApp { elapsed := 1.0, outcome := .ok { status := 200 } }

theorem answers_of_crowded : ∃ answers,
    (crowded {} {} ⟨0⟩).AnswersOnly 0 [.detect "GPTBot/1.2" "", .wait ⟨2⟩, .serve fromBot pages,
      .serve { path := "/p" } pages] answers
    ∧ (crowded stuck { noWriting := some "full" } ⟨1⟩).AnswersOnly 0 [.detect "GPTBot/1.2" "",
      .wait ⟨3⟩, .serve fromBot slowPages, .serve { path := "/p" } slowPages] answers := by
  have hstamp : ∀ n ∈ [0, 1, 2, 3], stampFault? (⟨n⟩ : Micros) = none := by
    simp only [List.forall_mem_cons, List.not_mem_nil, false_implies, implies_true, and_true]
    refine ⟨?_, ?_, ?_, ?_⟩ <;> cbv
  have hagree : AgreeOn 0 (crowded {} {} ⟨0⟩) (crowded stuck { noWriting := some "full" } ⟨1⟩) := by
    refine ⟨(hstamp 1 (by simp)).trans (hstamp 0 (by simp)).symm, .some ⟨rfl, rfl, ?_, ?_⟩⟩
    · exact Engine.faithful_of_memo_none rfl
    · exact Engine.faithful_of_memo_none rfl
  have happ : SameApp 0 pages slowPages := by
    refine sameApp_of_unseen (.ok { status := 200 }) (fun _ => ⟨?_, rfl⟩) fun _ => ⟨?_, rfl⟩
    · exact unseen_of_same rfl rfl
    · exact unseen_of_same rfl rfl
  have hwait : SameCall 0 (.wait (⟨2⟩ : Micros)) (.wait ⟨3⟩) :=
    .wait ((hstamp 3 (by simp)).trans (hstamp 2 (by simp)).symm)
  exact same_answers hagree (.cons (.detect _ _) (.cons hwait (.cons (.serve _ happ)
    (.cons (.serve _ happ) .nil))))

end Session

end Host

end BotSentry
