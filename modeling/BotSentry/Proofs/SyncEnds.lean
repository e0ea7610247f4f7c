import BotSentry.Proofs.SyncCalls

/-!
# How a synchronisation ends

The end of a request brings a dataset (`Outcome.Yields`), is a failure that the synchronisation
reports, or escapes it (`Outcome.Escapes`): a fault that is no failure of the request, a document
that nests too deeply, or a clock that shows no date. A synchronisation ends without a result
exactly where the end of its request escapes. Of the faults that the transport defines, those escape
that are no failure of the request (`exists_escapes_ofClass_iff`).
-/

namespace BotSentry

namespace Outcome

/-- The end of a request brings a dataset: a success with a document that meets the schema, at a
time that is a date. -/
inductive Yields (now : Except TimeFault DateTime) : Outcome → Dataset → Prop
  | mk {status : Nat} {body : Bytes} {v : Json} {t : DateTime} {d : Dataset} :
    Http.isSuccess status = true → Json.ofDocument body = .ok v → now = .ok t →
      Dataset.ofPayload v t = .ok d → Yields now (.response status body) d

/-- The end of a request is none that a synchronisation takes for its own. -/
inductive Escapes (now : Except TimeFault DateTime) : Outcome → Interruption → Prop
  | fault {f : TransferFault} : f.kind = .transfer ∨ f.kind = .foreign →
      Escapes now (.fault f) (.transfer f)
  | tooDeep {status : Nat} {body : Bytes} {f : Json.DocumentFault} :
    Http.isSuccess status = true → Json.ofDocument body = .error f → f.isTooDeep = true →
      Escapes now (.response status body) (.tooDeep f.message)
  | time {status : Nat} {body : Bytes} {v : Json} {f : TimeFault} :
    Http.isSuccess status = true → Json.ofDocument body = .ok v → now = .error f →
      Escapes now (.response status body) (.time f)

variable {now : Except TimeFault DateTime}

theorem receive_eq_dataset_iff {outcome : Outcome} {d : Dataset} :
    outcome.receive now = .ok (.ok d) ↔ outcome.Yields now d := by
  constructor
  · intro h
    rcases outcome with ⟨status, body⟩ | f
    · simp only [receive] at h
      split_ifs at h with hs
      · unfold Dataset.ofBody at h
        split at h
        · split_ifs at h
          simp at h
        · rename_i v hv
          split at h
          · simp at h
          · rename_i t
            rcases hp : Dataset.ofPayload v t with fault | d'
            · simp [hp, Except.mapError] at h
            · simp only [hp, Except.mapError, Except.ok.injEq] at h
              exact .mk hs hv rfl (h ▸ hp)
      · simp at h
    · simp only [receive] at h
      split at h <;> simp at h
  · rintro ⟨hs, hv, rfl, hp⟩
    simp only [receive, hs, ↓reduceIte, Dataset.ofBody, hv, hp, Except.mapError]

theorem receive_eq_error_iff {outcome : Outcome} {x : Interruption} :
    outcome.receive now = .error x ↔ outcome.Escapes now x := by
  constructor
  · intro h
    rcases outcome with ⟨status, body⟩ | f
    · simp only [receive] at h
      split_ifs at h with hs
      · unfold Dataset.ofBody at h
        split at h
        · rename_i fault hv
          split_ifs at h with ht
          simp only [Except.error.injEq] at h
          exact h ▸ .tooDeep hs hv ht
        · rename_i v hv
          split at h
          · simp only [Except.error.injEq] at h
            exact h ▸ .time hs hv rfl
          · simp at h
    · simp only [receive] at h
      split at h <;> rename_i hk
      · simp at h
      · simp at h
      · simp only [Except.error.injEq] at h
        exact h ▸ .fault (.inl hk)
      · simp only [Except.error.injEq] at h
        exact h ▸ .fault (.inr hk)
  · rintro (⟨hk | hk⟩ | ⟨hs, hv, ht⟩ | ⟨hs, hv, rfl⟩)
    · simp only [receive, hk]
    · simp only [receive, hk]
    · simp only [receive, hs, ↓reduceIte, Dataset.ofBody, hv, ht]
    · simp only [receive, hs, ↓reduceIte, Dataset.ofBody, hv]

theorem exists_receive_eq_ok_iff {outcome : Outcome} :
    (∃ r, outcome.receive now = .ok r) ↔ ¬ ∃ x, outcome.Escapes now x := by
  simp only [← receive_eq_error_iff]
  rcases outcome.receive now with x | r <;> simp

/-- Of the faults that the transport defines, those escape that are no failure of the request. -/
theorem exists_escapes_ofClass_iff {c : FaultClass} {message : String} :
    (∃ x, (Outcome.fault (.ofClass c message)).Escapes now x) ↔ c.isA .requestError = false := by
  have hkind : (c.kind = .transfer ∨ c.kind = .foreign) ↔ c.isA .requestError = false := by
    cases c <;> decide
  rw [← hkind]
  constructor
  · rintro ⟨_, ⟨hk⟩⟩
    exact hk
  · exact fun hk => ⟨_, .fault hk⟩

end Outcome

variable {τ : Type} [TimeScale τ]

theorem Client.endSync_result (c : Client τ) (cache : Cache τ) (outcome : Outcome) (now : τ) :
    (c.endSync cache outcome now).2.2.2 = outcome.receive (TimeScale.toDateTime now) := by
  unfold endSync
  rcases outcome.receive (TimeScale.toDateTime now) with x | e | d <;> rfl

namespace Host

section Calls

variable {h : Host τ} {i : Nat} {c : Client τ}

theorem endSync_end (hc : h.client? i = some c) (mode : SyncMode τ) (outcome : Outcome) :
    (h.endSync i mode outcome).2
      = (outcome.receive (TimeScale.toDateTime h.clock)).map some := by
  have hr := c.endSync_result h.cache outcome h.clock
  rcases he : c.endSync h.cache outcome h.clock with ⟨c', cache, notices, result⟩
  rw [he] at hr
  unfold endSync
  simp only [hc, he, ← hr]
  rcases result with x | r <;> rfl

theorem endSync_eq_error_iff (hc : h.client? i = some c) (mode : SyncMode τ) (outcome : Outcome)
    (x : Interruption) : (h.endSync i mode outcome).2 = .error x
      ↔ outcome.Escapes (TimeScale.toDateTime h.clock) x := by
  rw [endSync_end hc, ← Outcome.receive_eq_error_iff]
  rcases outcome.receive (TimeScale.toDateTime h.clock) with y | r <;> simp [Except.map]

theorem exists_endSync_eq_ok_iff (hc : h.client? i = some c) (mode : SyncMode τ)
    (outcome : Outcome) : (∃ r, (h.endSync i mode outcome).2 = .ok (some r))
      ↔ ¬ ∃ x, outcome.Escapes (TimeScale.toDateTime h.clock) x := by
  rw [endSync_end hc, ← Outcome.exists_receive_eq_ok_iff]
  rcases outcome.receive (TimeScale.toDateTime h.clock) with y | r <;> simp [Except.map]

/-- A call for a synchronisation that cannot begin has a result at once. Any other one sends its
request, and whether the answer comes at once or is let go later, it has a result if and only if the
end of the request does not escape; otherwise it is interrupted by what escapes. Of the faults that
the transport defines, those escape that are no failure of the request. -/
theorem sync_result_iff_not_escapes (hc : h.client? i = some c) (caller : Caller) :
    (∀ e, c.syncObstacle? = some e →
        h.callSync i .plain caller = (h, some (.ok (some (.error e)))))
      ∧ (c.syncObstacle? = none → (h.peer.take c.patternsRequest).1.held = false →
        ((∃ r, (h.callSync i .plain caller).2 = some (.ok (some r)))
          ↔ ¬ ∃ x, h.peer.nextOutcome.Escapes (TimeScale.toDateTime h.clock) x)
        ∧ ∀ x, (h.callSync i .plain caller).2 = some (.error x)
          ↔ h.peer.nextOutcome.Escapes (TimeScale.toDateTime h.clock) x)
      ∧ (∀ outcome, ((∃ r, (h.endSync i .plain outcome).2 = .ok (some r))
          ↔ ¬ ∃ x, outcome.Escapes (TimeScale.toDateTime h.clock) x)
        ∧ ∀ x, (h.endSync i .plain outcome).2 = .error x
          ↔ outcome.Escapes (TimeScale.toDateTime h.clock) x)
      ∧ ∀ (fault : FaultClass) (message : String),
        (∃ x, (Outcome.fault (.ofClass fault message)).Escapes (TimeScale.toDateTime h.clock) x)
          ↔ fault.isA .requestError = false := by
  refine ⟨fun e he => callSync_plain_of_obstacle hc he caller, fun he ha => ?_, fun outcome =>
    ⟨exists_endSync_eq_ok_iff hc _ outcome, endSync_eq_error_iff hc _ outcome⟩,
    fun fault message => Outcome.exists_escapes_ofClass_iff⟩
  have hb := client?_begun hc
  rw [callSync_plain hc he, requestSync_answered ha]
  simp only [Option.some.injEq]
  exact ⟨exists_endSync_eq_ok_iff hb _ _, endSync_eq_error_iff hb _ _⟩

end Calls

/-- A host whose client has a key, and whose peer has prepared some answers. -/
def answering (answers : List Answer) : Host Micros where
  clock := ⟨0⟩
  peer := { answers }
  clients := [{ settings := { apiKey := "key" }, snapshot := { dataset := .bootstrap },
                lastSync := ⟨0⟩ }]

/-- A host whose next request ends with a fault that the transport defines. -/
def failing (fault : FaultClass) : Host Micros :=
  answering [{ outcome := .fault (.ofClass fault "") }]

/-- A malformed address is a fault that the transport defines, and it escapes. -/
theorem sync_interrupted_by_invalidUrl :
    ((failing .invalidUrl).sync 0 .plain).2 = .error (.transfer (.ofClass .invalidUrl "")) := rfl

/-- Where the address is malformed there is no result, and where the connection fails there is. -/
theorem sync_result_by_fault :
    (∀ fault, (failing fault).client? 0
        = some { settings := { apiKey := "key" }, snapshot := { dataset := .bootstrap },
                 lastSync := ⟨0⟩ })
      ∧ (¬ ∃ r, ((failing .invalidUrl).callSync 0 .plain .host).2 = some (.ok (some r)))
      ∧ ∃ r, ((failing .connectError).callSync 0 .plain .host).2 = some (.ok (some r)) := by
  refine ⟨fun _ => rfl, ?_, ?_⟩
  · obtain ⟨-, hsent, -, hclass⟩ := sync_result_iff_not_escapes
      (show (failing .invalidUrl).client? 0 = some _ from rfl) .host
    rw [(hsent rfl rfl).1, not_not]
    exact (hclass .invalidUrl "").2 rfl
  · obtain ⟨-, hsent, -, hclass⟩ := sync_result_iff_not_escapes
      (show (failing .connectError).client? 0 = some _ from rfl) .host
    rw [(hsent rfl rfl).1]
    intro hx
    exact absurd ((hclass .connectError "").1 hx) (by decide)

end Host

end BotSentry
