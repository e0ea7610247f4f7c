import BotSentry.Proofs.Steps

/-!
# What becomes of a client

Whatever happens to a host, each of its clients is an earlier one that its own operations have
changed, or a new one and what they have made of it. A relation that holds of these operations, and
of several of them in a row, is a `Course`; it then holds between the clients of a host before and
after any steps (`evolves_steps`), and a property that the operations keep holds of every client that is
ever in use (`forall_client_run`).
-/

namespace BotSentry

variable {τ : Type} [TimeScale τ]

namespace Client

/-- Everything that a host does to a client, once or several times. -/
structure Course (R : Client τ → Client τ → Prop) : Prop where
  refl : ∀ c, R c c
  trans : ∀ {c c' c''}, R c c' → R c' c'' → R c c''
  detect : ∀ c userAgent referrer, R c (c.detect userAgent referrer).1
  detectBot : ∀ c userAgent, R c (c.detectBot userAgent).1
  install : ∀ c d, R c { c with snapshot := c.snapshot.install d }
  mark : ∀ c lastSync, R c { c with lastSync }
  sync : ∀ c syncing, R c { c with syncing }
  report : ∀ c reporter, R c { c with reporter }

section Course

variable {R : Client τ → Client τ → Prop} (hR : Course R)

include hR

theorem Course.reported (c : Client τ) (d : Detection) (v : Visit) (now : τ) :
    R c (c.report d v now).1 := by
  unfold Client.report
  split
  · exact hR.refl c
  · split
    · exact hR.refl c
    · exact hR.report c _

theorem Course.ended (c : Client τ) (cache : Cache τ) (outcome : Outcome) (now : τ) :
    R c (c.endSync cache outcome now).1 := by
  unfold Client.endSync
  dsimp only
  split
  · exact hR.sync c false
  · exact hR.sync c false
  · exact hR.trans (hR.sync c false) (hR.install { c with syncing := false } _)

omit [TimeScale τ] in
theorem Course.concluded (c : Client τ) (mode : SyncMode τ) (result : SyncResult) :
    R c (c.conclude mode result).1 := by
  unfold Client.conclude
  split
  · exact hR.refl c
  · split
    · exact hR.mark c _
    · exact hR.refl c

end Course

end Client

namespace Host

/-! ## Courses of clients -/

/-- Every client has been there before, or is new, and has gone on as `R` says. -/
def Evolves (R : Client τ → Client τ → Prop) (h h' : Host τ) : Prop :=
  ∀ i c', h'.client? i = some c' →
    (∃ c, h.client? i = some c ∧ R c c') ∨ ∃ c, c.IsNew ∧ R c c'

section Evolves

variable {R : Client τ → Client τ → Prop} (hR : Client.Course R)

include hR

theorem evolves_of_clients {h h' : Host τ} (he : h'.clients = h.clients) : Evolves R h h' := by
  intro i c' hc
  exact .inl ⟨c', by rwa [client?, ← he], hR.refl c'⟩

theorem evolves_refl (h : Host τ) : Evolves R h h := evolves_of_clients hR rfl

theorem Evolves.trans {h h' h'' : Host τ} (h₁ : Evolves R h h') (h₂ : Evolves R h' h'') :
    Evolves R h h'' := by
  intro i c'' hc
  rcases h₂ i c'' hc with ⟨c', hc', hr'⟩ | hnew
  · rcases h₁ i c' hc' with ⟨c, hc, hr⟩ | ⟨c, hn, hr⟩
    · exact .inl ⟨c, hc, hR.trans hr hr'⟩
    · exact .inr ⟨c, hn, hR.trans hr hr'⟩
  · exact .inr hnew

theorem evolves_setClient {h : Host τ} {i : Nat} {c c' : Client τ} (hc : h.client? i = some c)
    (hr : R c c') : Evolves R h (h.setClient i c') := by
  intro j c'' hj
  by_cases hji : j = i
  · subst hji
    rw [client?_setClient_self hc, Option.some.injEq] at hj
    exact .inl ⟨c, hc, hj ▸ hr⟩
  · rw [client?_setClient_of_ne hji] at hj
    exact .inl ⟨c'', hj, hR.refl c''⟩

theorem Evolves.note {h h' : Host τ} (he : Evolves R h h') (notices : List Notice) :
    Evolves R h (h'.note notices) :=
  he.trans hR (evolves_of_clients hR rfl)

theorem evolves_finishEvent (h : Host τ) (i worker : Nat) (outcome : Outcome) :
    Evolves R h (h.finishEvent i worker outcome) := by
  unfold finishEvent
  split
  · exact evolves_refl hR h
  · rename_i c hc
    exact (evolves_setClient hR hc (hR.report c _)).note hR _

theorem evolves_sendEvent {h : Host τ} {i : Nat} {c₀ c : Client τ} (hc : h.client? i = some c₀)
    (hr : R c₀ c) (worker : Nat) (e : Event) : Evolves R h (h.sendEvent i worker c e) := by
  have hset := evolves_setClient hR hc hr
  unfold sendEvent
  split
  · exact evolves_setClient hR hc (hR.trans hr (hR.report c _))
  · have hask := evolves_of_clients hR
      (ask_clients (h.setClient i c) i (.event worker) (c.eventRequest e.toJson))
    split
    · rename_i h' heq
      rw [heq] at hask
      exact hset.trans hR hask
    · rename_i h' outcome heq
      rw [heq] at hask
      exact (hset.trans hR hask).trans hR (evolves_finishEvent hR h' i worker outcome)

theorem evolves_start (h : Host τ) (i : Nat) : Evolves R h (h.start i) := by
  unfold start
  split
  · exact evolves_refl hR h
  · rename_i c hc
    exact (evolves_setClient hR hc (hR.report c _)).note hR _

theorem evolves_stop (h : Host τ) (i : Nat) (hasTime : Bool) : Evolves R h (h.stop i hasTime) := by
  unfold stop
  split
  · exact evolves_refl hR h
  · rename_i c hc
    split
    · exact evolves_refl hR h
    · exact (evolves_setClient hR hc (hR.report c _)).trans hR (evolves_of_clients hR rfl)

theorem evolves_endSync (h : Host τ) (i : Nat) (mode : SyncMode τ) (outcome : Outcome) :
    Evolves R h (h.endSync i mode outcome).1 := by
  unfold endSync
  split
  · exact evolves_refl hR h
  · rename_i c hc
    have hended := hR.ended c h.cache outcome h.clock
    rcases he : c.endSync h.cache outcome h.clock with ⟨c', cache, notices, result⟩
    rw [he] at hended
    dsimp only
    have hcache : Evolves R h ({ h with cache }.note notices) := evolves_of_clients hR rfl
    have hc' : ({ h with cache }.note notices).client? i = some c := hc
    split
    · exact hcache.trans hR (evolves_setClient hR hc' hended)
    · exact (hcache.trans hR (evolves_setClient hR hc'
        (hR.trans hended (hR.concluded c' mode _)))).note hR _

theorem evolves_begun {h : Host τ} {i : Nat} {c : Client τ} (hc : h.client? i = some c) :
    Evolves R h (h.begun i c) :=
  (evolves_setClient hR hc (hR.sync c true)).trans hR (evolves_of_clients hR rfl)

theorem evolves_callSync (h : Host τ) (i : Nat) (mode : SyncMode τ) (caller : Caller) :
    Evolves R h (h.callSync i mode caller).1 := by
  rcases hc : h.client? i with _ | c
  · rw [callSync_of_none hc]
    exact evolves_refl hR h
  · have hcases := callSync_cases hc mode caller
    generalize h.callSync i mode caller = result at hcases ⊢
    cases hcases with
    | refused | skipped => exact evolves_refl hR h
    | @requested notices _ _ hr =>
      have hn : (h.note notices).client? i = some c := hc
      have hb : Evolves R h ((h.note notices).begun i c) :=
        (evolves_of_clients hR rfl).trans hR (evolves_begun hR hn)
      cases hr with
      | answered => exact hb.trans hR (evolves_endSync hR _ i mode _)
      | givenUp =>
        exact hb.trans hR (evolves_setClient hR (client?_begun hn)
          (hR.sync { c with syncing := true } c.syncing))
      | held => exact hb.trans hR (evolves_of_clients hR rfl)

theorem evolves_report (h : Host τ) (i : Nat) (d : Detection) (v : Visit) :
    Evolves R h (h.report i d v).1 := by
  unfold report
  split
  · exact evolves_refl hR h
  · rename_i c hc
    exact (evolves_setClient hR hc (hR.reported c d v h.clock)).note hR _

theorem evolves_free (h : Host τ) (x : Held τ) : Evolves R h (h.free x) := by
  unfold free
  split
  · exact evolves_refl hR h
  · rename_i c hc
    exact evolves_setClient hR hc (hR.sync c false)

theorem evolves_step {h h' : Host τ} (hs : Step h h') : Evolves R h h' := by
  cases hs with
  | surroundings hc hh => exact evolves_of_clients hR hc
  | @build c hn =>
    intro i c' hc
    simp only [client?, List.getElem?_append, List.getElem?_singleton] at hc ⊢
    split_ifs at hc
    · exact .inl ⟨c', hc, hR.refl c'⟩
    · rw [Option.some.injEq] at hc
      exact .inr ⟨c, hn, hc ▸ hR.refl c⟩
  | detect userAgent referrer hc => exact evolves_setClient hR hc (hR.detect _ _ _)
  | detectBot userAgent hc => exact evolves_setClient hR hc (hR.detectBot _ _)
  | install d hc => exact evolves_setClient hR hc (hR.install _ d)
  | mark lastSync hc => exact evolves_setClient hR hc (hR.mark _ lastSync)
  | report i d v => exact evolves_report hR h i d v
  | start i => exact evolves_start hR h i
  | stop i hasTime => exact evolves_stop hR h i hasTime
  | send hc htake => exact evolves_sendEvent hR hc (hR.report _ _) _ _
  | sent hx htask => exact (evolves_of_clients hR rfl).trans hR (evolves_finishEvent hR _ _ _ _)
  | call i mode caller => exact evolves_callSync hR h i mode caller
  | synced hx htask => exact (evolves_of_clients hR rfl).trans hR (evolves_endSync hR _ _ _ _)
  | cancel hx htask => exact (evolves_of_clients hR rfl).trans hR (evolves_free hR _ _)

/-- Clients go on as `R` says while their host does anything at all. -/
theorem evolves_steps {h h' : Host τ} (hs : Steps h h') : Evolves R h h' := by
  induction hs with
  | refl => exact evolves_refl hR h
  | tail _ hstep ih => exact ih.trans hR (evolves_step hR hstep)

end Evolves

/-- What new clients have and no operation takes away, every client in use has. -/
theorem forall_client_run {P : Client τ → Prop} (hP : Client.Course fun c c' => P c → P c')
    (hnew : ∀ c : Client τ, c.IsNew → P c) {h : Host τ} (hh : ∀ i c, h.client? i = some c → P c)
    (actions : List (Action τ)) : ∀ i c, (h.run actions).client? i = some c → P c := by
  intro i c' hc
  rcases evolves_steps hP (steps_run h actions) i c' hc with ⟨c, hc, hr⟩ | ⟨c, hn, hr⟩
  · exact hr (hh i c hc)
  · exact hr (hnew c hn)

end Host

end BotSentry
