import BotSentry.Proofs.Conservation

/-!
# Drained queues

Whoever waits for a queue to drain relies on its count of unfinished events. The count is that of the
events that wait and of those that are being sent (`Reporter.Counted`). This is kept whatever happens to
a reporter, also where somebody cancels a worker, which is beyond what the host itself does (`Turn`).
Together with the balance of the ledger it says that a queue without unfinished events has nothing left
(`done_of_unfinished`), and since what is done stays done (`Ledger.Grows`), a flush that comes back
leaves no event behind that had been queued when it was called (`count_in_step`).
-/

namespace BotSentry

/-! ## The count of a reporter -/

namespace Reporter

variable {r r' : Reporter} {worker : Nat} {e : Event}

/-- The unfinished events are those that wait and those that are being sent. -/
def Counted (r : Reporter) : Prop := r.unfinished = r.waiting.length + r.sending

/-- A worker is cancelled. What it was sending is given up, and it never takes another event. -/
def cancel (r : Reporter) (worker : Nat) : Reporter :=
  { r with
    unfinished :=
      if (r.workers[worker]?).any (·.isSending) then r.unfinished - 1 else r.unfinished
    workers := r.workers.set worker .dead }

theorem Sends.sending_pos (hs : r.Sends worker e) : 0 < r.sending :=
  List.countP_pos_iff.2 ⟨_, List.mem_of_getElem? hs, rfl⟩

/-- One worker changes, and with it how many are sending. -/
theorem sending_of_set {w w' : Worker} (hw : r.workers[worker]? = some w)
    (hset : r'.workers = r.workers.set worker w') :
    r'.sending + w.isSending.toNat = r.sending + w'.isSending.toNat := by
  obtain ⟨hlt, rfl⟩ := List.getElem?_eq_some_iff.1 hw
  have hpos : r.workers[worker].isSending = true → 0 < r.sending :=
    fun h => List.countP_pos_iff.2 ⟨_, List.getElem_mem hlt, h⟩
  have hcount : r'.sending = r.sending - (if r.workers[worker].isSending then 1 else 0)
      + if w'.isSending then 1 else 0 := by rw [sending, hset, List.countP_set hlt, sending]
  cases hs : r.workers[worker].isSending <;> cases hs' : w'.isSending <;>
    simp only [hs, hs', Bool.false_eq_true, ↓reduceIte, Bool.toNat_true, Bool.toNat_false,
      forall_const, IsEmpty.forall_iff] at hpos hcount ⊢ <;> omega

theorem Counted.queue (hr : r.Counted) (e : Event) :
    ({ r with waiting := r.waiting ++ [e], unfinished := r.unfinished + 1 } : Reporter).Counted := by
  change r.unfinished + 1 = (r.waiting ++ [e]).length + r.sending
  rw [List.length_append, List.length_singleton, hr]
  omega

theorem Counted.start (hr : r.Counted) (size workers : Int) : (r.start size workers).Counted := by
  unfold Reporter.start
  split_ifs
  · exact hr
  · simp [Counted, sending, List.countP_replicate, Worker.isSending]

theorem Takes.counted (ht : r.Takes worker e r') (hr : r.Counted) : r'.Counted := by
  obtain ⟨rest, hwaiting, hrest, hworkers, hunfinished⟩ : ∃ rest, r.waiting = e :: rest
      ∧ r'.waiting = rest ∧ r'.workers = r.workers.set worker (.sending e)
      ∧ r'.unfinished = r.unfinished := by
    cases ht with
    | mk hwaiting => exact ⟨_, hwaiting, rfl, rfl, rfl⟩
  have hsending : r'.sending + 0 = r.sending + 1 := sending_of_set ht.idle hworkers
  have hcount : r.unfinished = r.waiting.length + r.sending := hr
  rw [hwaiting, List.length_cons] at hcount
  rw [Counted, hunfinished, hrest]
  omega

theorem Takes.sends (ht : r.Takes worker e r') : r'.Sends worker e := by
  obtain ⟨-, hidle⟩ := ht
  exact List.getElem?_set_self (List.getElem?_eq_some_iff.1 hidle).1

/-- A sending that ends is taken from the count. -/
theorem Counted.finish (hr : r.Counted) (hs : r.Sends worker e) (goesOn : Bool) :
    (r.finish worker goesOn).Counted := by
  have hsending : (r.finish worker goesOn).sending + 1
      = r.sending + (if goesOn then Worker.idle else .dead).isSending.toNat :=
    sending_of_set hs rfl
  have hcount : r.unfinished = r.waiting.length + r.sending := hr
  have hafter : (if goesOn then Worker.idle else .dead).isSending.toNat = 0 := by
    cases goesOn <;> rfl
  change r.unfinished - 1 = r.waiting.length + (r.finish worker goesOn).sending
  omega

theorem Counted.halt (hr : r.Counted) : r.halt.Counted := by
  simp only [Counted] at hr
  simp [Counted, Reporter.halt, hr, sending]

theorem Counted.cancel (hr : r.Counted) (worker : Nat) : (r.cancel worker).Counted := by
  have hcount : r.unfinished = r.waiting.length + r.sending := hr
  rcases hw : r.workers[worker]? with _ | w
  · have hsame : r.workers.set worker .dead = r.workers :=
      List.set_eq_of_length_le (List.getElem?_eq_none_iff.1 hw)
    simp [Counted, Reporter.cancel, sending, hw, hsame, hcount]
  · have hsending : (r.cancel worker).sending + w.isSending.toNat = r.sending :=
      sending_of_set hw (show (r.cancel worker).workers = r.workers.set worker .dead from rfl)
    have hunfinished : (r.cancel worker).unfinished = r.unfinished - w.isSending.toNat := by
      simp only [Reporter.cancel, hw, Option.any_some]
      cases w.isSending <;> rfl
    rw [Counted, hunfinished, show (r.cancel worker).waiting = r.waiting from rfl]
    omega

theorem sends_cancel (r : Reporter) (worker w : Nat) (e : Event) :
    (r.cancel worker).Sends w e ↔ r.Sends w e ∧ decide (w = worker) = false := by
  rw [sends_set (show (r.cancel worker).workers = r.workers.set worker .dead from rfl)]
  by_cases hw : worker = w
  · simp [hw]
  · simp [hw, Ne.symm hw, Sends]

end Reporter

/-! ## What is done -/

/-- A ledger goes on: events are added, and what is done stays done. -/
structure Ledger.Grows (l l' : Ledger) : Prop where
  queued : l.queued <+: l'.queued
  done : ∀ (k : Nat) ending, l.fates[k]? = some (.done ending) → l'.fates[k]? = some (.done ending)

namespace Ledger

variable {l l' l'' : Ledger}

theorem Grows.refl (l : Ledger) : l.Grows l := ⟨List.prefix_rfl, fun _ _ => id⟩

theorem Grows.trans (h : l.Grows l') (h' : l'.Grows l'') : l.Grows l'' :=
  ⟨h.queued.trans h'.queued, fun k ending hk => h'.done k ending (h.done k ending hk)⟩

theorem grows_queue (l : Ledger) (e : Event) : l.Grows (l.queue e) :=
  ⟨List.prefix_append _ _, fun _ _ => id⟩

theorem grows_take (l : Ledger) (fate : Fate) (posts : List Outbound) :
    l.Grows (l.take fate posts) := by
  refine ⟨List.prefix_rfl, fun k ending hk => ?_⟩
  rw [take, List.getElem?_append_left (List.getElem?_eq_some_iff.1 hk).1, hk]

theorem grows_close (l : Ledger) (whose : Nat → Bool) (ending : Ending) :
    l.Grows (l.close whose ending) := by
  refine ⟨List.prefix_rfl, fun k ending' hk => ?_⟩
  rw [close, List.getElem?_map, hk]
  rfl

end Ledger

variable {τ : Type} [TimeScale τ]

namespace Host

section Entries

variable {i : Nat} {s : Settings} {h : Host τ} {l : Ledger} {c : Client τ} {b b' : Host τ × Ledger}

theorem grows_entry (he : Entry i b b') : b.2.Grows b'.2 := by
  cases he with
  | queued => exact Ledger.grows_queue _ _
  | started h l =>
    dsimp only
    split_ifs
    · exact .refl l
    · exact ⟨List.prefix_rfl, fun _ _ => id⟩
  | stopped => exact Ledger.grows_close _ _ _
  | taken => exact Ledger.grows_take _ _ _
  | ended => exact Ledger.grows_close _ _ _
  | refused | apart => exact .refl _

omit [TimeScale τ] in
/-- Where the ledger is balanced, a queue without unfinished events has nothing left. -/
theorem Balanced.done_of_unfinished (b : Balanced i s h l c) (hr : c.reporter.Counted)
    (hzero : c.reporter.unfinished = 0) {k : Nat} (hk : k < l.queued.length) :
    ∃ ending, l.fates[k]? = some (.done ending) := by
  have hcount : c.reporter.unfinished = c.reporter.waiting.length + c.reporter.sending := hr
  have hwaiting := congrArg List.length b.waiting
  rw [List.length_drop] at hwaiting
  have hlt : k < l.fates.length := by omega
  rcases hf : l.fates[k] with worker | ending
  · obtain ⟨e, he⟩ := b.exists_sends (hf ▸ List.getElem_mem hlt)
    have hpos := he.sending_pos
    omega
  · exact ⟨ending, by rw [List.getElem?_eq_getElem hlt, hf]⟩

/-! ## The count along a run -/

theorem counted_report (hc : h.client? i = some c) (hr : c.reporter.Counted) (d : Detection)
    (v : Visit) : ∃ c', (h.report i d v).1.client? i = some c' ∧ c'.reporter.Counted := by
  have hcases := report_cases hc d v
  generalize h.report i d v = result at hcases ⊢
  cases hcases with
  | skipped | undated => exact ⟨c, hc, hr⟩
  | queued => exact ⟨_, client?_setClient_self hc, hr.queue _⟩
  | full => exact ⟨_, client?_setClient_self hc, hr⟩

omit [TimeScale τ] in
/-- However the sending of an event goes on at once. -/
theorem counted_sendEvent (hc : h.client? i = some c) (hr : c.reporter.Counted) {worker : Nat}
    {e : Event} {r : Reporter} (ht : c.reporter.Takes worker e r) :
    ∃ c', (h.sendEvent i worker { c with reporter := r } e).client? i = some c'
      ∧ c'.reporter.Counted := by
  have hr' := ht.counted hr
  have hcases := sendEvent_cases h i worker { c with reporter := r } e
  generalize h.sendEvent i worker { c with reporter := r } e = h' at hcases ⊢
  have hposted : (h.posted i { c with reporter := r } e).client? i = some { c with reporter := r } :=
    client?_setClient_self hc
  cases hcases with
  | unwritten => exact ⟨_, client?_setClient_self hc, hr'.finish ht.sends false⟩
  | answered => exact ⟨_, client?_finishEvent hposted worker _, hr'.finish ht.sends _⟩
  | held => exact ⟨_, hposted, hr'⟩

theorem counted_entry (he : Entry i b b') (hb : Balanced i s b.1 b.2 c)
    (hr : c.reporter.Counted) : ∃ c', b'.1.client? i = some c' ∧ c'.reporter.Counted := by
  cases he with
  | queued => exact counted_report hb.client hr _ _
  | refused => exact counted_report hb.client hr _ _
  | started => exact ⟨_, client?_start hb.client, hr.start _ _⟩
  | stopped _ _ hasTime =>
    refine ⟨_, client?_stop hb.client hasTime, ?_⟩
    split_ifs
    · exact hr.halt
    · exact hr
  | taken hc ht hh' =>
    obtain rfl : c = _ := Option.some.inj (hb.client.symm.trans hc)
    exact hh' ▸ counted_sendEvent hc hr ht
  | @ended h l before after x worker hx hevent =>
    obtain ⟨e, he⟩ := (hb.sends_of_held hx hevent).1
    have hc : { h with held := before ++ after }.client? i = some c := hb.client
    exact ⟨_, client?_finishEvent hc worker x.outcome, hr.finish he _⟩
  | apart hapart =>
    obtain ⟨c', hc', -, hsame⟩ := hapart.client c hb.client
    exact ⟨c', hc', hsame ▸ hr⟩

end Entries

/-! ## Cancelled workers -/

/-- A worker of a client is cancelled, and its request with it. -/
def cancelWorker (h : Host τ) (i worker : Nat) : Host τ :=
  match h.client? i with
  | none => h
  | some c =>
    { h.setClient i { c with reporter := c.reporter.cancel worker } with
      held := h.held.filter (!·.isEventOf i worker) }

/-- What may happen to the clients of a host: a step of the host, or somebody cancels a worker. -/
inductive Turn : Host τ → Host τ → Prop
  | step {h h' : Host τ} : Step h h' → Turn h h'
  | cancelled (h : Host τ) (i worker : Nat) : Turn h (h.cancelWorker i worker)

/-- Any number of turns. -/
abbrev Turns : Host τ → Host τ → Prop := Relation.ReflTransGen Turn

/-- What a turn enters in the ledger of a client. -/
inductive TurnEntry (i : Nat) : Host τ × Ledger → Host τ × Ledger → Prop
  | entered {b b' : Host τ × Ledger} : Entry i b b' → TurnEntry i b b'
  | cancelled (h : Host τ) (l : Ledger) (worker : Nat) :
      TurnEntry i (h, l) (h.cancelWorker i worker, l.close (· = worker) .cancelled)

/-- Any number of turns and their entries. -/
abbrev TurnEntries (i : Nat) : Host τ × Ledger → Host τ × Ledger → Prop :=
  Relation.ReflTransGen (TurnEntry i)

section Cancelled

omit [TimeScale τ]

variable {i j : Nat} {s : Settings} {h : Host τ} {l : Ledger} {c : Client τ}

theorem pending_cancelWorker (hc : h.client? j = some c) (i worker w : Nat) :
    (h.cancelWorker j worker).pending i w = if i = j ∧ w = worker then 0 else h.pending i w := by
  simp only [pending, cancelWorker, hc, List.countP_filter]
  split_ifs with hw
  · rw [hw.1, hw.2]
    exact List.countP_eq_zero.2 fun x _ => by simp
  · refine List.countP_congr fun x _ => ?_
    simp only [Bool.and_eq_true, Bool.not_eq_true', and_iff_left_iff_imp, Held.isEventOf_iff]
    rintro ⟨hi, htask⟩
    simpa [Held.isEventOf, hi, htask] using hw

theorem client?_cancelWorker (hc : h.client? i = some c) (worker : Nat) :
    (h.cancelWorker i worker).client? i
      = some { c with reporter := c.reporter.cancel worker } := by
  simp only [cancelWorker, hc]
  exact client?_setClient_self hc

theorem balanced_cancelWorker (b : Balanced i s h l c) (worker : Nat) : Balanced i s
    (h.cancelWorker i worker) (l.close (· = worker) .cancelled)
      { c with reporter := c.reporter.cancel worker } := by
  refine b.close (client?_cancelWorker b.client worker) rfl rfl
    (fun w e => c.reporter.sends_cancel worker w e) (fun w => ?_) _
  simpa using pending_cancelWorker b.client i worker w

theorem apart_cancelWorker (hji : j ≠ i) (h : Host τ) (worker : Nat) :
    Apart i h (h.cancelWorker j worker) := by
  rcases hc : h.client? j with _ | c
  · rw [show h.cancelWorker j worker = h by simp only [cancelWorker, hc]]
    exact .refl i h
  · have hset : Apart i h (h.setClient j { c with reporter := c.reporter.cancel worker }) :=
      apart_setClient hc _ fun hj => absurd hj hji
    refine ⟨fun c₀ hc₀ => ?_, fun w => ?_⟩
    · simp only [cancelWorker, hc]
      exact hset.client c₀ hc₀
    · rw [pending_cancelWorker hc, if_neg fun h => hji h.1.symm]

end Cancelled

section Turns

variable {i : Nat} {s : Settings} {h h' : Host τ} {l : Ledger} {c c₀ : Client τ}
  {b b' : Host τ × Ledger}

/-- Nothing that happens is left out of the ledger. -/
theorem exists_entry_of_turn (ht : Turn h h') (i : Nat) (l : Ledger) :
    ∃ l', TurnEntry i (h, l) (h', l') := by
  cases ht with
  | step hs =>
    obtain ⟨l', he⟩ := exists_entry_of_step hs i l
    exact ⟨l', .entered he⟩
  | cancelled j worker =>
    by_cases hji : j = i
    · subst hji
      exact ⟨_, .cancelled h l worker⟩
    · exact ⟨l, .entered (.apart (apart_cancelWorker hji h worker))⟩

theorem exists_entries_of_turns (ht : Turns h h') (i : Nat) (l : Ledger) :
    ∃ l', TurnEntries i (h, l) (h', l') := by
  induction ht with
  | refl => exact ⟨l, .refl⟩
  | tail _ hturn ih =>
    obtain ⟨l', he⟩ := ih
    obtain ⟨l'', he'⟩ := exists_entry_of_turn hturn i l'
    exact ⟨l'', he.tail he'⟩

theorem grows_turns (he : TurnEntries i b b') : b.2.Grows b'.2 := by
  induction he with
  | refl => exact .refl _
  | tail _ hentry ih =>
    cases hentry with
    | entered he => exact ih.trans (grows_entry he)
    | cancelled h l worker => exact ih.trans (Ledger.grows_close _ _ _)

/-- The balance and the count are kept by whatever happens. -/
theorem counted_turns (he : TurnEntries i b b')
    (hb : ∃ c, Balanced i s b.1 b.2 c ∧ c.reporter.Counted) :
    ∃ c, Balanced i s b'.1 b'.2 c ∧ c.reporter.Counted := by
  induction he with
  | refl => exact hb
  | tail _ hentry ih =>
    obtain ⟨c, hb, hr⟩ := ih
    cases hentry with
    | entered he =>
      obtain ⟨c', hb'⟩ := balanced_entry he ⟨c, hb⟩
      obtain ⟨c'', hc'', hr'⟩ := counted_entry he hb hr
      obtain rfl : c' = c'' := Option.some.inj (hb'.client.symm.trans hc'')
      exact ⟨c', hb', hr'⟩
    | cancelled h l worker => exact ⟨_, balanced_cancelWorker hb worker, hr.cancel worker⟩

end Turns

/-! ## What the count is relied on for -/

/-- A flush that is called at one moment has come back by another: in between, there has been a moment
with nothing unfinished in the queue. Where a start has meanwhile put a new queue in the place of one
with unfinished events, the flush does not come back at all. -/
def Flushed (i : Nat) (b b' : Host τ × Ledger) : Prop :=
  ∃ m c, TurnEntries i b m ∧ TurnEntries i m b' ∧ m.1.client? i = some c
    ∧ c.reporter.unfinished = 0

/-- The count of a client is in step with its queue and its workers. -/
structure InStep (i : Nat) (h : Host τ) (c : Client τ) : Prop where
  count : c.reporter.unfinished = c.reporter.waiting.length + c.reporter.sending
  /-- A worker waits for one request while it is sending, and else for none. -/
  pending : ∀ worker, h.pending i worker ≤ 1
    ∧ (h.pending i worker = 1 ↔ ∃ e, c.reporter.Sends worker e)
  /-- There is something to take from the count when a sending ends, -/
  ended : ∀ worker e, c.reporter.Sends worker e → 0 < c.reporter.unfinished
  /-- also where it ends as soon as the event has been taken, -/
  taken : ∀ worker e r, c.reporter.Takes worker e r → 0 < r.unfinished
  /-- and where all of them end at once. -/
  halted : c.reporter.sending ≤ c.reporter.unfinished

/-- A stop is reported to be late only if something is left when its time is over, and behind it nobody
works and nothing is in flight. -/
structure Halts (i : Nat) (h : Host τ) (c : Client τ) : Prop where
  late : (h.stop i true).notices = h.notices
    ++ if c.reporter.isRunning = true ∧ (c.reporter.waiting ≠ [] ∨ 0 < c.reporter.sending)
      then [.drainTimeout c.reporter.waiting.length] else []
  quiet : c.reporter.isRunning = true → ∀ hasTime,
    (∃ c', (h.stop i hasTime).client? i = some c' ∧ c'.reporter.workers = [])
      ∧ ∀ x ∈ (h.stop i hasTime).held, x.client = i → x.task.isEvent = false

section Relied

variable {i : Nat} {s : Settings} {h : Host τ} {l : Ledger} {c c₀ : Client τ}

omit [TimeScale τ] in
theorem Balanced.pending_eq_one_iff (b : Balanced i s h l c) (worker : Nat) :
    h.pending i worker = 1 ↔ ∃ e, c.reporter.Sends worker e := by
  have hsingle := b.single worker
  rw [b.pending]
  constructor
  · intro hone
    exact b.exists_sends (List.count_pos_iff.1 (by omega))
  · rintro ⟨e, he⟩
    obtain ⟨k, hk, -⟩ := (b.sends worker e).1 he
    have hpos := List.count_pos_iff.2 (List.mem_of_getElem? hk)
    omega

omit [TimeScale τ] in
theorem Balanced.inStep (b : Balanced i s h l c) (hr : c.reporter.Counted) : InStep i h c where
  count := hr
  pending worker := ⟨b.pending worker ▸ b.single worker, b.pending_eq_one_iff worker⟩
  ended worker e hs := by
    have hpos := hs.sending_pos
    have hcount : c.reporter.unfinished = c.reporter.waiting.length + c.reporter.sending := hr
    omega
  taken worker e r ht := by
    have hpos := ht.sends.sending_pos
    have hcount : r.unfinished = r.waiting.length + r.sending := ht.counted hr
    omega
  halted := hr ▸ Nat.le_add_left _ _

omit [TimeScale τ] in
theorem halts_of_counted (hc : h.client? i = some c) (hr : c.reporter.Counted) : Halts i h c where
  late := by
    have hleft : 0 < c.reporter.unfinished ↔ c.reporter.waiting ≠ [] ∨ 0 < c.reporter.sending := by
      rw [show c.reporter.unfinished = _ from hr, Nat.add_pos_iff_pos_or_pos, List.length_pos_iff]
    rcases hrun : c.reporter.isRunning with _ | _
    · simp [stop, hc, hrun]
    · simp [stop, hc, hrun, note, setClient, hleft]
  quiet hrun hasTime := by
    refine ⟨⟨_, client?_stop hc hasTime, by rw [if_pos hrun]; rfl⟩, fun x hx hi => ?_⟩
    simp only [stop, hc, hrun, Bool.not_true, Bool.false_eq_true, ↓reduceIte, List.mem_filter] at hx
    simpa [hi] using hx.2

/-- The count of unfinished events is in step with the queue and the workers whatever happens to a
client, cancelled workers included. So nobody takes from the count what is not in it; a flush comes back
only when every event that had been queued before it was called has been sent to an end or given up, and
it does come back where nothing is unfinished; a stop in time is silent; and after a stop nobody works. -/
theorem count_in_step {h₀ : Host τ} (hc₀ : h₀.client? i = some c₀) (hnew : c₀.reporter = {})
    (hnone : ∀ worker, h₀.pending i worker = 0) :
    (∀ h, Turns h₀ h → ∃ l, TurnEntries i (h₀, {}) (h, l))
      ∧ ∀ h l, TurnEntries i (h₀, {}) (h, l) → ∃ c, h.client? i = some c ∧ InStep i h c
        ∧ Halts i h c
        ∧ (∀ h' l', Flushed i (h, l) (h', l') → l.queued <+: l'.queued
          ∧ ∀ k < l.queued.length, ∃ ending, l'.fates[k]? = some (.done ending))
        ∧ (i = h.current →
          ∀ reply, (h.perform .flush).2 = .ok reply → Flushed i (h, l) (h, l)) := by
  have hopened : ∃ c, Balanced i c₀.settings h₀ {} c ∧ c.reporter.Counted :=
    ⟨c₀, balanced_opened hc₀ hnew hnone, hnew ▸ rfl⟩
  refine ⟨fun h ht => exists_entries_of_turns ht i {}, fun h l he => ?_⟩
  obtain ⟨c, b, hr⟩ := counted_turns he hopened
  refine ⟨c, b.client, b.inStep hr, halts_of_counted b.client hr, ?_, ?_⟩
  · rintro h' l' ⟨m, cm, hm, hm', hcm, hzero⟩
    obtain ⟨cm', bm, hrm⟩ := counted_turns (he.trans hm) hopened
    obtain rfl : cm = cm' := Option.some.inj (hcm.symm.trans bm.client)
    have hqueued := (grows_turns hm).queued
    refine ⟨hqueued.trans (grows_turns hm').queued, fun k hk => ?_⟩
    obtain ⟨ending, hdone⟩ :=
      bm.done_of_unfinished hrm hzero (Nat.lt_of_lt_of_le hk hqueued.length_le)
    exact ⟨ending, (grows_turns hm').done k ending hdone⟩
  · intro hi reply hreply
    refine ⟨(h, l), c, .refl, .refl, b.client, ?_⟩
    have hc : h.client? h.current = some c := hi ▸ b.client
    simp only [perform, hc] at hreply
    split_ifs at hreply with hpos
    exact Nat.eq_zero_of_not_pos hpos

end Relied

/-- A flush that is called while an event waits comes back when the worker that sends it is cancelled, and
then the event is done. -/
theorem flushed_by_cancellation : ∃ h l l' ending,
    TurnEntries 0 (answering [{ outcome := .response 200 [], held := true }], {}) (h, l)
      ∧ l.queued.length = 1
      ∧ Flushed 0 (h, l) (sendingHost.cancelWorker 0 0, l')
      ∧ l'.fates[0]? = some (.done ending) := by
  obtain ⟨-, hkept⟩ := count_in_step
    (show (answering [{ outcome := .response 200 [], held := true }]).client? 0 = some _ from rfl)
    rfl fun _ => rfl
  obtain ⟨h, l, hreport, hlength, hturns⟩ : ∃ h l,
      TurnEntries 0 (answering [{ outcome := .response 200 [], held := true }], {}) (h, l)
        ∧ l.queued.length = 1 ∧ Turns h (sendingHost.cancelWorker 0 0) := by
    have hr : ((answering [{ outcome := .response 200 [], held := true }]).report 0
        (.referrer default none) {}).2 = .ok true := rfl
    obtain ⟨c, e, hc, he⟩ := exists_event_of_report hr
    refine ⟨_, _, .single (.entered (.queued hc he hr)), rfl, ?_⟩
    have hsteps := (steps_workOn _ 0).head (Step.start
      ((answering [{ outcome := .response 200 [], held := true }]).report 0 (.referrer default none)
        {}).1 0)
    exact (hsteps.lift id fun _ _ => Turn.step).tail (.cancelled sendingHost 0 0)
  obtain ⟨l', hrest⟩ := exists_entries_of_turns hturns 0 l
  obtain ⟨c, hc, hzero⟩ : ∃ c, (sendingHost.cancelWorker 0 0).client? 0 = some c
      ∧ c.reporter.unfinished = 0 := ⟨_, rfl, rfl⟩
  have hflushed : Flushed 0 (h, l) (sendingHost.cancelWorker 0 0, l') :=
    ⟨_, c, hrest, .refl, hc, hzero⟩
  obtain ⟨-, -, -, -, hflush, -⟩ := hkept h l hreport
  obtain ⟨ending, hdone⟩ := (hflush _ _ hflushed).2 0 (hlength ▸ Nat.one_pos)
  exact ⟨h, l, l', ending, hreport, hlength, hflushed, hdone⟩

end Host

end BotSentry
