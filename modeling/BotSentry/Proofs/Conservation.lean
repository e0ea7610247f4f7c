import BotSentry.Proofs.Ledger
import BotSentry.Proofs.SyncEnds
import Mathlib.Data.List.NodupEquivFin

/-!
# Events are conserved

The ledger of a client and its reporter agree (`Balanced`): the events that wait are those that nobody
has taken yet, in order; a worker that sends has one event of its own, and one request that is held back;
and the requests went out in the order of the events. Every entry keeps this (`balanced_entry`), so
every event that is ever queued is in one place at a time (`events_conserved`).
-/

namespace BotSentry

theorem Fate.close_eq_sending_iff {f : Fate} {whose : Nat → Bool} {ending : Ending} {worker : Nat} :
    f.close whose ending = .sending worker ↔ f = .sending worker ∧ whose worker = false := by
  rcases f with w | e
  · simp only [Fate.close]
    split_ifs with hw
    · simp only [Fate.sending.injEq, false_iff, not_and]
      rintro rfl
      simp [hw]
    · simp only [Fate.sending.injEq, iff_self_and]
      rintro rfl
      simpa using hw
  · simp [Fate.close]

theorem count_close (fates : List Fate) (whose : Nat → Bool) (ending : Ending) (worker : Nat) :
    (fates.map (Fate.close whose ending)).count (Fate.sending worker)
      = if whose worker then 0 else fates.count (Fate.sending worker) := by
  rw [List.count, List.countP_map]
  split_ifs with hw
  · refine List.countP_eq_zero.2 fun f _ => ?_
    simp [Fate.close_eq_sending_iff, hw]
  · refine List.countP_congr fun f _ => ?_
    simp [Fate.close_eq_sending_iff, hw]

theorem getElem?_concat_eq_some_iff {α : Type} {l : List α} {a b : α} {k : Nat} :
    (l ++ [a])[k]? = some b ↔ l[k]? = some b ∨ k = l.length ∧ a = b := by
  rw [List.getElem?_append, List.getElem?_singleton]
  split_ifs with hlt hz
  · simp [Nat.ne_of_lt hlt]
  · simp [show k = l.length by omega]
  · simp [show k ≠ l.length by omega, Nat.le_of_not_lt hlt]

/-- A worker of a reporter is sending an event. -/
def Reporter.Sends (r : Reporter) (worker : Nat) (e : Event) : Prop :=
  r.workers[worker]? = some (.sending e)

theorem Reporter.sends_set {r : Reporter} {w : Nat} {x : Worker} {workers : List Worker}
    (hr : r.workers = workers.set w x) (w' : Nat) (e : Event) :
    r.Sends w' e ↔ if w = w' then w < workers.length ∧ x = .sending e
      else workers[w']? = some (.sending e) := by
  rw [Sends, hr, List.getElem?_set]
  split_ifs with hw hlt
  · simp [hlt]
  · simp [hlt]
  · rfl

theorem Reporter.hasRoom_iff {size : Int} (hsize : 1 ≤ size) {length : Nat} :
    hasRoom size length = true ↔ (length : Int) < size := by
  simp only [hasRoom, Bool.or_eq_true, decide_eq_true_eq]
  omega

variable {τ : Type} [TimeScale τ]

namespace Host

/-- The ledger of a client agrees with its reporter and with the requests that are held back. -/
structure Balanced (i : Nat) (s : Settings) (h : Host τ) (l : Ledger) (c : Client τ) : Prop where
  client : h.client? i = some c
  settings : c.settings = s
  waiting : c.reporter.waiting = l.queued.drop l.fates.length
  taken : l.fates.length ≤ l.queued.length
  room : 1 ≤ s.queueSize → (c.reporter.waiting.length : Int) ≤ s.queueSize
  sends : ∀ worker e, c.reporter.Sends worker e
    ↔ ∃ k : Nat, l.fates[k]? = some (Fate.sending worker) ∧ l.queued[k]? = some e
  pending : ∀ worker, h.pending i worker = l.fates.count (Fate.sending worker)
  single : ∀ worker, l.fates.count (Fate.sending worker) ≤ 1
  posts : l.posts = ((l.queued.take l.fates.length).filter (·.isWritable)).map
    fun e => c.eventRequest e.toJson

section Balanced

omit [TimeScale τ]

variable {i : Nat} {s : Settings} {h h' : Host τ} {l : Ledger} {c c' : Client τ}

/-- An event that is being sent has a worker. -/
theorem Balanced.exists_sends (b : Balanced i s h l c) {worker : Nat}
    (hmem : Fate.sending worker ∈ l.fates) : ∃ e, c.reporter.Sends worker e := by
  obtain ⟨k, hk⟩ := List.mem_iff_getElem?.1 hmem
  have hlt : k < l.queued.length :=
    Nat.lt_of_lt_of_le (List.getElem?_eq_some_iff.1 hk).1 b.taken
  exact ⟨l.queued[k], (b.sends _ _).2 ⟨k, hk, List.getElem?_eq_getElem hlt⟩⟩

theorem Balanced.count_eq_zero (b : Balanced i s h l c) {worker : Nat}
    (hno : ∀ e, ¬ c.reporter.Sends worker e) : l.fates.count (Fate.sending worker) = 0 := by
  refine List.count_eq_zero.2 fun hmem => ?_
  obtain ⟨e, he⟩ := b.exists_sends hmem
  exact hno e he

/-- A worker that takes an event waits for nothing. -/
theorem Balanced.pending_eq_zero (b : Balanced i s h l c) {worker : Nat} {e : Event} {r : Reporter}
    (htake : c.reporter.Takes worker e r) : h.pending i worker = 0 := by
  refine (b.pending worker).trans (b.count_eq_zero fun e he => ?_)
  simp [Reporter.Sends, htake.idle] at he

/-- What does not touch the queue, the events that are being sent and their requests keeps the
balance. -/
theorem Balanced.congr (b : Balanced i s h l c) (hc' : h'.client? i = some c')
    (hsettings : c'.settings = c.settings)
    (hwaiting : c'.reporter.waiting = c.reporter.waiting)
    (hsends : ∀ worker e, c'.reporter.Sends worker e ↔ c.reporter.Sends worker e)
    (hpending : ∀ worker, h'.pending i worker = h.pending i worker) : Balanced i s h' l c' where
  client := hc'
  settings := hsettings.trans b.settings
  waiting := hwaiting.trans b.waiting
  taken := b.taken
  room := by rw [hwaiting]; exact b.room
  sends worker e := (hsends worker e).trans (b.sends worker e)
  pending worker := (hpending worker).trans (b.pending worker)
  single := b.single
  posts := by rw [Client.eventRequest_congr hsettings]; exact b.posts

theorem Balanced.note (b : Balanced i s h l c) (notices : List Notice) :
    Balanced i s (h.note notices) l c :=
  b.congr b.client rfl rfl (fun _ _ => .rfl) fun _ => rfl

theorem Balanced.close (b : Balanced i s h l c) (hc' : h'.client? i = some c')
    (hsettings : c'.settings = c.settings)
    (hwaiting : c'.reporter.waiting = c.reporter.waiting) {whose : Nat → Bool}
    (hsends : ∀ worker e, c'.reporter.Sends worker e
      ↔ c.reporter.Sends worker e ∧ whose worker = false)
    (hpending : ∀ worker, h'.pending i worker = if whose worker then 0 else h.pending i worker)
    (ending : Ending) : Balanced i s h' (l.close whose ending) c' where
  client := hc'
  settings := hsettings.trans b.settings
  waiting := by simp only [Ledger.close, List.length_map, hwaiting, b.waiting]
  taken := by simp only [Ledger.close, List.length_map, b.taken]
  room := by rw [hwaiting]; exact b.room
  sends worker e := by
    rw [hsends, b.sends]
    simp only [Ledger.close, List.getElem?_map, Option.map_eq_some_iff,
      Fate.close_eq_sending_iff]
    constructor
    · rintro ⟨⟨k, hk, he⟩, hw⟩
      exact ⟨k, ⟨_, hk, rfl, hw⟩, he⟩
    · rintro ⟨k, ⟨f, hk, rfl, hw⟩, he⟩
      exact ⟨⟨k, hk, he⟩, hw⟩
  pending worker := by rw [hpending, b.pending, Ledger.close, count_close]
  single worker := by
    rw [Ledger.close, count_close]
    split_ifs
    · exact Nat.zero_le 1
    · exact b.single worker
  posts := by
    rw [Client.eventRequest_congr hsettings]
    simp only [Ledger.close, List.length_map, b.posts]

theorem Balanced.queue (b : Balanced i s h l c) (hc' : h'.client? i = some c') {e : Event}
    (hsettings : c'.settings = c.settings)
    (hwaiting : c'.reporter.waiting = c.reporter.waiting ++ [e])
    (hroom : Reporter.hasRoom s.queueSize c.reporter.waiting.length = true)
    (hworkers : c'.reporter.workers = c.reporter.workers)
    (hpending : ∀ worker, h'.pending i worker = h.pending i worker) :
    Balanced i s h' (l.queue e) c' where
  client := hc'
  settings := hsettings.trans b.settings
  waiting := by
    rw [hwaiting, b.waiting, Ledger.queue, List.drop_append_of_le_length b.taken]
  taken := by
    simp only [Ledger.queue, List.length_append]
    exact Nat.le_add_right_of_le b.taken
  room hsize := by
    rw [Reporter.hasRoom_iff hsize] at hroom
    rw [hwaiting, List.length_append, List.length_singleton]
    exact_mod_cast hroom
  sends worker e' := by
    rw [Reporter.Sends, hworkers]
    refine (b.sends worker e').trans (exists_congr fun k => and_congr_right fun hk => ?_)
    have hlt := Nat.lt_of_lt_of_le (List.getElem?_eq_some_iff.1 hk).1 b.taken
    rw [Ledger.queue, List.getElem?_append_left hlt]
  pending worker := (hpending worker).trans (b.pending worker)
  single := b.single
  posts := by
    rw [Client.eventRequest_congr hsettings]
    simp only [Ledger.queue, List.take_append_of_le_length b.taken, b.posts]

/-- The oldest event that waits is the first one without a fate. -/
theorem Balanced.next (b : Balanced i s h l c) {e : Event} {rest : List Event}
    (hwaiting : c.reporter.waiting = e :: rest) :
    l.queued[l.fates.length]? = some e ∧ l.queued.drop (l.fates.length + 1) = rest := by
  have hdrop : l.queued.drop l.fates.length = e :: rest := b.waiting.symm.trans hwaiting
  have hlt : l.fates.length < l.queued.length := by
    have hlength := congrArg List.length hdrop
    simp only [List.length_drop, List.length_cons] at hlength
    omega
  rw [List.drop_eq_getElem_cons hlt, List.cons.injEq] at hdrop
  exact ⟨by rw [List.getElem?_eq_getElem hlt, hdrop.1], hdrop.2⟩

/-- A worker that was idle sends the event it has taken, if that is what became of the event. -/
theorem sends_of_taken {worker : Nat} {e : Event} {rest : List Event}
    (hidle : c.reporter.workers[worker]? = some .idle) (t : Taken i h h' c c' worker e rest)
    (w : Nat) (e' : Event) : c'.reporter.Sends w e'
      ↔ c.reporter.Sends w e' ∨ h.fateAfter h' i worker e = .sending w ∧ e = e' := by
  have hno : ∀ e, ¬ c.reporter.Sends worker e := by simp [Reporter.Sends, hidle]
  rw [Reporter.sends_set t.workers]
  split_ifs with hw
  · subst hw
    have hworker := (List.getElem?_eq_some_iff.1 hidle).1
    simp only [hworker, true_and, hno, false_or]
    exact fateAfter_worker_eq_sending
  · refine ⟨.inl, fun hor => hor.resolve_right fun hf => hw (fateAfter_eq_sending hf.1).symm⟩

/-- A worker that is idle takes the oldest event. -/
theorem Balanced.take (b : Balanced i s h l c) {worker : Nat} {e : Event} {rest : List Event}
    (hwaiting : c.reporter.waiting = e :: rest)
    (hidle : c.reporter.workers[worker]? = some .idle) (t : Taken i h h' c c' worker e rest) :
    Balanced i s h' (l.take (h.fateAfter h' i worker e) (h'.peer.seen.drop h.peer.seen.length))
      c' := by
  obtain ⟨hnext, hrest⟩ := b.next hwaiting
  have hno : ∀ e, ¬ c.reporter.Sends worker e := by simp [Reporter.Sends, hidle]
  have hsends := sends_of_taken hidle t
  have hpending := t.pending
  have hposts := t.posts
  have hfate : ∀ w, h.fateAfter h' i worker e = .sending w → w = worker :=
    fun w => fateAfter_eq_sending
  generalize h.fateAfter h' i worker e = fate at hsends hpending hfate ⊢
  have hcount : ∀ w, (l.fates ++ [fate]).count (Fate.sending w)
      = l.fates.count (Fate.sending w) + if fate = .sending w then 1 else 0 := by
    intro w
    rw [List.count_append, List.count_singleton]
    simp
  refine ⟨t.client, t.settings.trans b.settings, ?_, ?_, ?_, fun w e' => ?_, fun w => ?_,
    fun w => ?_, ?_⟩
  · simp only [Ledger.take, List.length_append, List.length_singleton, t.waiting, hrest]
  · simp only [Ledger.take, List.length_append, List.length_singleton]
    exact (List.getElem?_eq_some_iff.1 hnext).1
  · intro hsize
    have hroom := b.room hsize
    rw [hwaiting, List.length_cons] at hroom
    rw [t.waiting]
    omega
  · rw [hsends, b.sends]
    simp only [Ledger.take, getElem?_concat_eq_some_iff]
    constructor
    · rintro (⟨k, hk, he⟩ | ⟨hf, rfl⟩)
      · exact ⟨k, .inl hk, he⟩
      · exact ⟨l.fates.length, .inr ⟨rfl, hf⟩, hnext⟩
    · rintro ⟨k, hk | ⟨rfl, hf⟩, he⟩
      · exact .inl ⟨k, hk, he⟩
      · rw [hnext, Option.some.injEq] at he
        exact .inr ⟨hf, he⟩
  · rw [hpending, b.pending, Ledger.take, hcount]
  · rw [Ledger.take, hcount]
    split_ifs with hf
    · obtain rfl := hfate w hf
      have hzero := b.count_eq_zero hno
      omega
    · exact b.single w
  · rw [Client.eventRequest_congr t.settings, hposts]
    simp only [Ledger.take, List.length_append, List.length_singleton, List.take_add_one, hnext,
      Option.toList_some, List.filter_append, List.map_append, b.posts]
    by_cases hw : e.isWritable = true
    · simp [hw]
    · simp [hw]

/-! ## Entries -/

theorem balanced_opened (hc : h.client? i = some c) (hnew : c.reporter = {})
    (hnone : ∀ worker, h.pending i worker = 0) : Balanced i c.settings h {} c where
  client := hc
  settings := rfl
  waiting := by rw [hnew]; rfl
  taken := Nat.le_refl 0
  room hsize := by
    rw [hnew]
    exact Int.le_trans (by decide) hsize
  sends worker e := by simp [Reporter.Sends, hnew]
  pending worker := hnone worker
  single worker := Nat.zero_le 1
  posts := rfl

theorem balanced_start (b : Balanced i s h l c) :
    ∃ c', Balanced i s (h.start i) (if h.isRunning i then l else l.start) c' := by
  have hc := b.client
  have hrun : h.isRunning i = c.reporter.isRunning := by simp [isRunning, hc]
  have hc' := client?_start hc
  have hpending : ∀ worker, (h.start i).pending i worker = h.pending i worker := by
    intro worker
    simp only [start, hc]
    rfl
  refine ⟨c.start.1, ?_⟩
  rw [hrun]
  rcases hr : c.reporter.isRunning with _ | _
  · have hempty : c.reporter.workers = [] := by simpa [Reporter.isRunning] using hr
    have htaken : Reporter.taken c.settings.queueSize c.reporter.waiting = c.reporter.waiting := by
      have hroom := b.room
      rw [b.settings]
      unfold Reporter.taken
      split_ifs
      · rfl
      · exact List.take_of_length_le (by omega)
    have hsends : ∀ worker e, c.start.1.reporter.Sends worker e ↔ c.reporter.Sends worker e := by
      intro worker e
      simp [Reporter.Sends, Client.start, Reporter.start, hr, hempty, List.getElem?_replicate]
    have hcongr := b.congr hc' rfl (by simp [Client.start, Reporter.start, hr, htaken]) hsends
      hpending
    exact ⟨hcongr.client, hcongr.settings, hcongr.waiting, hcongr.taken, hcongr.room, hcongr.sends, hcongr.pending,
      hcongr.single, hcongr.posts⟩
  · have hsame : c.start.1.reporter = c.reporter := by simp [Client.start, Reporter.start, hr]
    exact b.congr hc' rfl (by rw [hsame]) (fun _ _ => by rw [hsame]) hpending

theorem balanced_stop (b : Balanced i s h l c) (hasTime : Bool) : ∃ c',
    Balanced i s (h.stop i hasTime) (l.close (fun _ => true) .cancelled) c' := by
  have hc := b.client
  rcases hr : c.reporter.isRunning with _ | _
  · have hempty : c.reporter.workers = [] := by simpa [Reporter.isRunning] using hr
    have hno : ∀ worker e, ¬ c.reporter.Sends worker e := by simp [Reporter.Sends, hempty]
    have hsame : h.stop i hasTime = h := by simp [stop, hc, hr]
    rw [hsame]
    refine ⟨c, b.close hc rfl rfl (fun worker e => ?_) (fun worker => ?_) _⟩
    · simp [hno worker e]
    · rw [b.pending, b.count_eq_zero (hno worker), if_pos rfl]
  · have hc' := client?_stop hc hasTime
    rw [hr, if_pos rfl] at hc'
    refine ⟨_, b.close hc' rfl rfl (fun worker e => ?_) (fun worker => ?_) _⟩
    · simp [Reporter.Sends, Reporter.halt]
    · simp only [stop, hc, hr, Bool.not_true, Bool.false_eq_true, ↓reduceIte, pending,
        List.countP_filter]
      refine List.countP_eq_zero.2 fun x _ => ?_
      rw [Bool.and_eq_true, Held.isEventOf_iff]
      rintro ⟨⟨hi, htask⟩, hkeep⟩
      simp [hi, htask, Task.isEvent] at hkeep

/-- A request that is held back has a worker that waits for it alone. -/
theorem Balanced.sends_of_held (b : Balanced i s h l c) {before after : List (Held τ)} {x : Held τ}
    {worker : Nat} (hx : h.held = before ++ x :: after) (hevent : x.isEventOf i worker = true) :
    (∃ e, c.reporter.Sends worker e)
      ∧ { h with held := before ++ after }.pending i worker = 0 := by
  have hone : h.pending i worker = { h with held := before ++ after }.pending i worker + 1 := by
    simp only [Host.pending, hx, List.countP_append, List.countP_cons, hevent, ↓reduceIte]
    omega
  have hcount := b.pending worker
  have hsingle := b.single worker
  have hmem : Fate.sending worker ∈ l.fates := List.count_pos_iff.1 (by omega)
  exact ⟨b.exists_sends hmem, by omega⟩

theorem balanced_ended (b : Balanced i s h l c) {before after : List (Held τ)} {x : Held τ}
    {worker : Nat} (hx : h.held = before ++ x :: after) (hevent : x.isEventOf i worker = true) :
    ∃ c', Balanced i s ({ h with held := before ++ after }.finishEvent i worker x.outcome)
      (l.close (· = worker) (.posted x.outcome)) c' := by
  have hzero := (b.sends_of_held hx hevent).2
  have hc₁ : { h with held := before ++ after }.client? i = some c := b.client
  have hc' := client?_finishEvent hc₁ worker x.outcome
  refine ⟨_, b.close hc' rfl rfl (fun w e => ?_) (fun w => ?_) _⟩
  · rw [Reporter.sends_set rfl]
    by_cases hw : worker = w
    · subst hw
      simp only [↓reduceIte, decide_true, Bool.true_eq_false, and_false, iff_false, not_and]
      intro _
      split <;> simp
    · simp [hw, Ne.symm hw, Reporter.Sends]
  · rw [finishEvent_eq hc₁]
    change { h with held := before ++ after }.pending i w = _
    by_cases hw : w = worker
    · simpa [hw] using hzero
    · have hnot : x.isEventOf i w = false := by
        have htask := (Held.isEventOf_iff.1 hevent).2
        simp [Held.isEventOf, htask, Ne.symm hw]
      simp [hw, pending, hx, hnot]

theorem balanced_taken (b : Balanced i s h l c) {worker : Nat} {e : Event} {r : Reporter}
    (htake : c.reporter.Takes worker e r)
    (hh' : h.sendEvent i worker { c with reporter := r } e = h') :
    ∃ c', Balanced i s h' (l.take (h.fateAfter h' i worker e)
      (h'.peer.seen.drop h.peer.seen.length)) c' := by
  obtain ⟨c', t⟩ := taken_of_sendEvent b.client (b.pending_eq_zero htake) htake
  rw [hh'] at t
  obtain ⟨hwaiting, hidle⟩ := htake
  exact ⟨c', b.take hwaiting hidle t⟩

end Balanced

section Account

variable {i : Nat} {s : Settings} {h h' : Host τ} {l : Ledger} {c c₀ : Client τ}

theorem balanced_queued (b : Balanced i s h l c) {d : Detection}
    {v : Visit} {e : Event} (he : c.event d v h.clock = .ok e)
    (hr : (h.report i d v).2 = .ok true) :
    ∃ c', Balanced i s (h.report i d v).1 (l.queue e) c' := by
  have hcases := report_cases b.client d v
  generalize h.report i d v = result at hcases hr ⊢
  obtain ⟨h', answer⟩ := result
  obtain rfl : answer = .ok true := hr
  cases hcases with
  | @queued e' _ _ he' hroom =>
    obtain rfl : e = e' := by simpa [he] using he'
    rw [b.settings] at hroom
    have hc' := client?_setClient_self b.client (c := { c with reporter := { c.reporter with
      waiting := c.reporter.waiting ++ [e], unfinished := c.reporter.unfinished + 1 } })
    exact ⟨_, b.queue hc' rfl rfl hroom rfl fun _ => rfl⟩

theorem balanced_refused (b : Balanced i s h l c) {d : Detection} {v : Visit}
    (hr : (h.report i d v).2 ≠ .ok true) : ∃ c', Balanced i s (h.report i d v).1 l c' := by
  have hcases := report_cases b.client d v
  generalize h.report i d v = result at hcases hr ⊢
  cases hcases with
  | skipped => exact ⟨c, b⟩
  | undated => exact ⟨c, b⟩
  | queued => exact absurd rfl hr
  | full =>
    have hc' := client?_setClient_self b.client (c := { c with reporter := { c.reporter with
      dropped := c.reporter.dropped + 1 } })
    exact ⟨_, Balanced.note (b.congr hc' rfl rfl (fun _ _ => .rfl) fun _ => rfl) _⟩

/-- Every entry keeps the balance. -/
theorem balanced_entry {b b' : Host τ × Ledger} (he : Entry i b b')
    (hb : ∃ c, Balanced i s b.1 b.2 c) : ∃ c, Balanced i s b'.1 b'.2 c := by
  obtain ⟨c, hb⟩ := hb
  cases he with
  | queued hc he hr =>
    obtain rfl : c = _ := Option.some.inj (hb.client.symm.trans hc)
    exact balanced_queued hb he hr
  | refused hr => exact balanced_refused hb hr
  | started => exact balanced_start hb
  | stopped _ _ hasTime => exact balanced_stop hb hasTime
  | taken hc htake hh' =>
    obtain rfl : c = _ := Option.some.inj (hb.client.symm.trans hc)
    exact balanced_taken hb htake hh'
  | ended hx hevent => exact balanced_ended hb hx hevent
  | apart hapart =>
    obtain ⟨c', hc', hs, hr⟩ := hapart.client c hb.client
    exact ⟨c', hb.congr hc' hs (by rw [hr]) (fun _ _ => by rw [hr]) hapart.pending⟩

theorem balanced_entries {b b' : Host τ × Ledger} (he : Entries i b b')
    (hb : ∃ c, Balanced i s b.1 b.2 c) : ∃ c, Balanced i s b'.1 b'.2 c := by
  induction he with
  | refl => exact hb
  | tail _ hentry ih => exact balanced_entry hentry ih

theorem balanced_account {h₀ : Host τ} (hc₀ : h₀.client? i = some c₀) (hnew : c₀.reporter = {})
    (hnone : ∀ worker, h₀.pending i worker = 0) (ha : Account i h₀ h l) :
    ∃ c, Balanced i c₀.settings h l c :=
  balanced_entries ha ⟨c₀, balanced_opened hc₀ hnew hnone⟩

/-! ## Where an event is -/

/-- A report of something detected to a collector queues its event if there is room for it, and else
counts it as dropped. Any other report changes nothing. -/
structure Reports (h : Host τ) (i : Nat) (c : Client τ) (d : Detection) (v : Visit) : Prop where
  skipped : c.settings.isConfigured = false ∨ d.detected = false → h.report i d v = (h, .ok false)
  queued : c.settings.isConfigured = true → d.detected = true → ∀ e, c.event d v h.clock = .ok e →
    (c.reporter.waiting.length : Int) < c.settings.queueSize →
    h.report i d v = (h.setClient i { c with reporter := { c.reporter with
      waiting := c.reporter.waiting ++ [e], unfinished := c.reporter.unfinished + 1 } }, .ok true)
  dropped : c.settings.isConfigured = true → d.detected = true → ∀ e, c.event d v h.clock = .ok e →
    (c.reporter.waiting.length : Int) = c.settings.queueSize →
    h.report i d v = ((h.setClient i { c with reporter := { c.reporter with
      dropped := c.reporter.dropped + 1 } }).note
        [.queueFull d.kind.name (c.reporter.dropped + 1)], .ok false)
  undated : c.settings.isConfigured = true → d.detected = true → ∀ fault,
    c.event d v h.clock = .error fault → h.report i d v = (h, .error (.time fault))

theorem reports_of_client (hc : h.client? i = some c) (hsize : 1 ≤ c.settings.queueSize)
    (d : Detection) (v : Visit) : Reports h i c d v := by
  have hcases := report_cases hc d v
  refine ⟨fun hor => ?_, fun hk hd e he hlt => ?_, fun hk hd e he heq => ?_, fun hk hd x he => ?_⟩ <;>
    generalize h.report i d v = result at hcases ⊢
  · rcases hcases with - | ⟨hk, hd, -⟩ | ⟨hk, hd, -, -⟩ | ⟨hk, hd, -, -⟩
    · rfl
    all_goals simp [hk, hd] at hor
  · rw [← Reporter.hasRoom_iff hsize] at hlt
    rcases hcases with hor | ⟨-, -, he'⟩ | ⟨-, -, he', -⟩ | ⟨-, -, -, hroom⟩
    · simp [hk, hd] at hor
    · simp [he] at he'
    · obtain rfl : e = _ := by simpa [he] using he'
      rfl
    · simp [hlt] at hroom
  · rcases hcases with hor | ⟨-, -, he'⟩ | ⟨-, -, -, hroom⟩ | ⟨-, -, -, -⟩
    · simp [hk, hd] at hor
    · simp [he] at he'
    · rw [Reporter.hasRoom_iff hsize] at hroom
      omega
    · rfl
  · rcases hcases with hor | ⟨-, -, he'⟩ | ⟨-, -, he', -⟩ | ⟨-, -, he', -⟩
    · simp [hk, hd] at hor
    · obtain rfl : x = _ := by simpa [he] using he'
      rfl
    all_goals simp [he] at he'

/-- Where an event is that has been queued: it waits at its place in the queue, or a worker has it alone
and waits for its request, or it is done. -/
def Placed (i : Nat) (h : Host τ) (l : Ledger) (r : Reporter) (k : Nat) (e : Event) : Prop :=
  match l.fates[k]? with
  | none => l.fates.length ≤ k ∧ r.waiting[k - l.fates.length]? = some e
  | some (.sending worker) => r.Sends worker e ∧ h.pending i worker = 1
    ∧ ∀ k' : Nat, l.fates[k']? = some (.sending worker) → k' = k
  | some (.done _) => True

omit [TimeScale τ] in
theorem Balanced.index_eq (b : Balanced i s h l c) {worker k k' : Nat}
    (hk : l.fates[k]? = some (.sending worker)) (hk' : l.fates[k']? = some (.sending worker)) :
    k = k' := by
  have hdup : ¬ l.fates.Duplicate (.sending worker) := by
    rw [List.duplicate_iff_two_le_count]
    have hsingle := b.single worker
    omega
  obtain ⟨hlt, hget⟩ := List.getElem?_eq_some_iff.1 hk
  obtain ⟨hlt', hget'⟩ := List.getElem?_eq_some_iff.1 hk'
  by_contra hne
  rw [List.duplicate_iff_exists_distinct_get] at hdup
  rcases Nat.lt_or_gt_of_ne hne with hlt₁ | hlt₁
  · exact hdup ⟨⟨k, hlt⟩, ⟨k', hlt'⟩, hlt₁, hget.symm, hget'.symm⟩
  · exact hdup ⟨⟨k', hlt'⟩, ⟨k, hlt⟩, hlt₁, hget'.symm, hget.symm⟩

omit [TimeScale τ] in
theorem Balanced.placed (b : Balanced i s h l c) {k : Nat} {e : Event}
    (hk : l.queued[k]? = some e) : Placed i h l c.reporter k e := by
  unfold Placed
  rcases hf : l.fates[k]? with _ | worker | ending
  · have hle : l.fates.length ≤ k := List.getElem?_eq_none_iff.1 hf
    refine ⟨hle, ?_⟩
    rw [b.waiting, List.getElem?_drop, Nat.add_sub_cancel' hle, hk]
  · refine ⟨(b.sends worker e).2 ⟨k, hf, hk⟩, ?_, fun k' hk' => b.index_eq hk' hf⟩
    have hpos : 0 < l.fates.count (.sending worker) :=
      List.count_pos_iff.2 (List.mem_of_getElem? hf)
    have hsingle := b.single worker
    rw [b.pending]
    omega
  · trivial

/-- Everything that a host does can be accounted for, and however a run goes on, the ledger agrees with
the reporter: a report queues its event or counts it as dropped, the latter exactly when the queue is
full; every event that has been queued is in one place; the requests went out in the order of the events;
and to start and to stop a client leaves the events that wait as they are. -/
theorem events_conserved {h₀ : Host τ} (hc₀ : h₀.client? i = some c₀) (hnew : c₀.reporter = {})
    (hnone : ∀ worker, h₀.pending i worker = 0) (hsize : 1 ≤ c₀.settings.queueSize) :
    (∀ h, Steps h₀ h → ∃ l, Account i h₀ h l)
      ∧ ∀ h l, Account i h₀ h l → ∃ c, Balanced i c₀.settings h l c
        ∧ (∀ d v, Reports h i c d v)
        ∧ (∀ (k : Nat) e, l.queued[k]? = some e → Placed i h l c.reporter k e)
        ∧ (∃ c', (h.start i).client? i = some c' ∧ c'.reporter.waiting = c.reporter.waiting)
        ∧ ∀ hasTime, ∃ c', (h.stop i hasTime).client? i = some c'
          ∧ c'.reporter.waiting = c.reporter.waiting := by
  refine ⟨fun h hs => exists_account_of_steps i hs, fun h l ha => ?_⟩
  obtain ⟨c, b⟩ := balanced_account hc₀ hnew hnone ha
  refine ⟨c, b, reports_of_client b.client (b.settings ▸ hsize), fun k e hk => b.placed hk, ?_,
    fun hasTime => ?_⟩
  · obtain ⟨c', b'⟩ := balanced_start b
    refine ⟨c', b'.client, b'.waiting.trans ?_⟩
    rw [b.waiting]
    split_ifs <;> rfl
  · obtain ⟨c', b'⟩ := balanced_stop b hasTime
    refine ⟨c', b'.client, b'.waiting.trans ?_⟩
    simp only [Ledger.close, List.length_map, b.waiting]

end Account

/-- A host that has reported a visit and started its client, while its peer holds requests back. -/
def sendingHost : Host Micros :=
  (((answering [{ outcome := .response 200 [], held := true }]).report 0 (.referrer default none)
    {}).1.start 0).workOn 0

/-- The event that a worker is sending is the one that has been queued, and one request is held back. -/
theorem sending_while_held : ∃ l c e,
    Account 0 (answering [{ outcome := .response 200 [], held := true }]) sendingHost l
      ∧ sendingHost.client? 0 = some c ∧ c.reporter.Sends 0 e ∧ c.reporter.waiting = []
      ∧ (∃ k : Nat, l.queued[k]? = some e ∧ l.fates[k]? = some (.sending 0))
      ∧ sendingHost.pending 0 0 = 1 := by
  have hsteps : Steps (answering [{ outcome := .response 200 [], held := true }]) sendingHost :=
    .head (.report _ 0 (.referrer default none) {}) (.head (.start _ 0) (steps_workOn _ 0))
  obtain ⟨haccount, hbalanced⟩ := events_conserved
    (show (answering [{ outcome := .response 200 [], held := true }]).client? 0 = some _ from rfl)
    rfl (fun _ => rfl) (by decide)
  obtain ⟨l, ha⟩ := haccount _ hsteps
  obtain ⟨c, b, -⟩ := hbalanced _ l ha
  obtain ⟨c', e, hc', he, hwaiting⟩ : ∃ c e, sendingHost.client? 0 = some c
      ∧ c.reporter.Sends 0 e ∧ c.reporter.waiting = [] := ⟨_, _, rfl, rfl, rfl⟩
  obtain rfl : c = c' := Option.some.inj (b.client.symm.trans hc')
  obtain ⟨k, hf, hk⟩ := (b.sends 0 e).1 he
  exact ⟨l, c, e, ha, hc', he, hwaiting, ⟨k, hk, hf⟩, rfl⟩

end Host

end BotSentry
