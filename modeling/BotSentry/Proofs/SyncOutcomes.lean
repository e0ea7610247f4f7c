import BotSentry.Proofs.SingleFlight

/-!
# What the result of a synchronisation says

A call for a synchronisation returns at once, or when the request that it waits for is let go
(`Host.Returns`). If it returns a result, then the class of its error tells why: there is no key,
another synchronisation of the client is in flight, or one request was sent and ended in the one way
that this class stands for (`Outcome.Classified`). A dataset is always that of the body of the
response.
-/

namespace BotSentry

/-! ## The end of the request -/

theorem Http.isSuccess_iff {status : Nat} :
    Http.isSuccess status = true ↔ 200 ≤ status ∧ status ≤ 299 := by
  simp [Http.isSuccess]

/-- The fault is a failure of the request; it may have taken too long. -/
def TransferFault.OfRequest (f : TransferFault) : Prop := f.kind = .timeout ∨ f.kind = .request

/-- Of the faults that the transport defines, the failures of a request are those of that class. -/
theorem TransferFault.ofRequest_ofClass_iff {c : FaultClass} {message : String} :
    (TransferFault.ofClass c message).OfRequest ↔ c.isA .requestError = true := by
  simp only [OfRequest, ofClass]
  cases c <;> decide

/-- A decoded answer is no dataset, whenever it comes. -/
def Json.Rejected (v : Json) : Prop := ∀ t, ∃ fault, Dataset.ofPayload v t = .error fault

/-- Whether a decoded answer is a dataset does not depend on when it comes. -/
theorem Json.rejected_of_ofPayload {v : Json} {t : DateTime} {fault : PayloadFault}
    (h : Dataset.ofPayload v t = .error fault) : v.Rejected := by
  intro t'
  refine ⟨fault, ?_⟩
  cases v with
  | obj fields =>
    dsimp only [Dataset.ofPayload] at h ⊢
    split_ifs at h ⊢
    · exact h
    · rcases hp : Payload.ofFields fields with p | _ | ⟨i, rest⟩ <;> simp only [hp] at h ⊢
      · simp at h
      · exact h
      · exact h
  | _ => exact h

theorem Json.not_rejected {v : Json} {t : DateTime} {d : Dataset}
    (h : Dataset.ofPayload v t = .ok d) : ¬ v.Rejected := by
  intro hr
  obtain ⟨fault, hf⟩ := hr t
  simp [hf] at h

/-- The class of the error of a result; a dataset has none. -/
def SyncResult.errorKind? : SyncResult → Option String
  | .ok _ => none
  | .error e => some e.kind

open SyncResult (errorKind?)

namespace Outcome

/-- How the end of a request becomes a result. -/
inductive Received (now : Except TimeFault DateTime) : Outcome → SyncResult → Prop
  | timedOut {f : TransferFault} : f.kind = .timeout →
      Received now (.fault f) (.error (.timedOut f.message))
  | unreachable {f : TransferFault} : f.kind = .request →
      Received now (.fault f) (.error (.unreachable f.message))
  | status {code : Nat} {body : Bytes} : ¬ (200 ≤ code ∧ code ≤ 299) →
      Received now (.response code body) (.error (.status code))
  | notJson {code : Nat} {body : Bytes} {f : Json.DocumentFault} : 200 ≤ code ∧ code ≤ 299 →
      Json.ofDocument body = .error f →
      Received now (.response code body) (.error (.notJson f.message))
  | rejected {code : Nat} {body : Bytes} {v : Json} {fault : PayloadFault} :
      200 ≤ code ∧ code ≤ 299 → Json.ofDocument body = .ok v → v.Rejected →
      Received now (.response code body) (.error (.payload fault))
  | dataset {code : Nat} {body : Bytes} {v : Json} {t : DateTime} {d : Dataset} :
      200 ≤ code ∧ code ≤ 299 → Json.ofDocument body = .ok v → now = .ok t →
      Dataset.ofPayload v t = .ok d → Received now (.response code body) (.ok d)

variable {now : Except TimeFault DateTime}

theorem received_of_ofBody {code : Nat} {body : Bytes} {r : SyncResult}
    (hs : 200 ≤ code ∧ code ≤ 299) (h : Dataset.ofBody body now = .ok r) :
    Received now (.response code body) r := by
  unfold Dataset.ofBody at h
  split at h
  · rename_i f hf
    split_ifs at h
    rw [Except.ok.injEq] at h
    exact h ▸ .notJson hs hf
  · rename_i v hv
    split at h
    · simp at h
    · rename_i t
      rcases hp : Dataset.ofPayload v t with fault | d <;>
        simp only [hp, Except.mapError, Except.ok.injEq] at h
      · exact h ▸ .rejected hs hv (Json.rejected_of_ofPayload hp)
      · exact h ▸ .dataset hs hv rfl hp

theorem received_of_receive {outcome : Outcome} {r : SyncResult}
    (h : outcome.receive now = .ok r) : Received now outcome r := by
  cases outcome with
  | response code body =>
    simp only [receive, Http.isSuccess_iff] at h
    split_ifs at h with hs
    · exact received_of_ofBody hs h
    · rw [Except.ok.injEq] at h
      exact h ▸ .status hs
  | fault f =>
    simp only [receive] at h
    split at h <;> rename_i hk <;> simp only [Except.ok.injEq, reduceCtorEq] at h
    · exact h ▸ .timedOut hk
    · exact h ▸ .unreachable hk

/-- What a result says about the end of the request: each class of errors, and being a dataset, exactly
what it stands for. -/
structure Classified (now : Except TimeFault DateTime) (outcome : Outcome) (r : SyncResult) :
    Prop where
  network : errorKind? r = some "NetworkError" ↔ ∃ f, outcome = .fault f ∧ f.OfRequest
  http : errorKind? r = some "HttpError"
    ↔ ∃ code body, outcome = .response code body ∧ ¬ (200 ≤ code ∧ code ≤ 299)
  /-- The error carries the status of the response. -/
  code : ∀ code, r = .error (.status code)
    ↔ ∃ body, outcome = .response code body ∧ ¬ (200 ≤ code ∧ code ≤ 299)
  malformed : errorKind? r = some "MalformedResponse"
    ↔ ∃ code body, outcome = .response code body ∧ (200 ≤ code ∧ code ≤ 299)
      ∧ ((∃ f, Json.ofDocument body = .error f)
        ∨ ∃ v, Json.ofDocument body = .ok v ∧ v.Rejected)
  ok : errorKind? r = none
    ↔ ∃ code body v, outcome = .response code body ∧ (200 ≤ code ∧ code ≤ 299)
      ∧ Json.ofDocument body = .ok v ∧ ¬ v.Rejected
  /-- The dataset is that of the body, as of the time at which it came. -/
  dataset : ∀ d, r = .ok d → ∃ code body v t, outcome = .response code body
    ∧ Json.ofDocument body = .ok v ∧ now = .ok t ∧ Dataset.ofPayload v t = .ok d

theorem Received.errorKind?_ne {outcome : Outcome} {r : SyncResult} (h : Received now outcome r) :
    errorKind? r ≠ some "ConfigurationError" ∧ errorKind? r ≠ some "SyncInProgressError" := by
  cases h <;> simp [errorKind?, SyncError.kind]

theorem Received.classified {outcome : Outcome} {r : SyncResult} (h : Received now outcome r) :
    Classified now outcome r := by
  cases h with
  | timedOut hk => constructor <;> simp [errorKind?, SyncError.kind, TransferFault.OfRequest, hk]
  | unreachable hk => constructor <;> simp [errorKind?, SyncError.kind, TransferFault.OfRequest, hk]
  | @status code body hs =>
    have hbad : ∀ {code' body'}, response code body = response code' body' →
        200 ≤ code' ∧ code' ≤ 299 → False := by
      rintro _ _ ⟨⟩ hs'
      exact hs hs'
    refine ⟨by simp [errorKind?, SyncError.kind], ⟨fun _ => ⟨code, body, rfl, hs⟩, fun _ => rfl⟩,
      fun code' => ⟨?_, ?_⟩,
      ⟨by simp [errorKind?, SyncError.kind], fun ⟨_, _, h, hs', _⟩ => (hbad h hs').elim⟩,
      ⟨nofun, fun ⟨_, _, _, h, hs', _⟩ => (hbad h hs').elim⟩, nofun⟩
    · rintro ⟨⟩
      exact ⟨body, rfl, hs⟩
    · rintro ⟨_, ⟨⟩, -⟩
      rfl
  | notJson hs hf => constructor <;> simp [errorKind?, SyncError.kind, hs, hf]
  | rejected hs hv hr => constructor <;> simp [errorKind?, SyncError.kind, hs, hv, hr]
  | dataset hs hv ht hp =>
    constructor <;> simp [errorKind?, hs, hv, ht, hp, Json.not_rejected hp]

end Outcome

/-! ## The call -/

variable {τ : Type} [TimeScale τ]

namespace Host

/-- The requests that have been sent since an earlier moment. -/
def sentSince (h h' : Host τ) : List Outbound := h'.peer.seen.drop h.peer.seen.length

/-- Whatever happens while a client waits for the same request for patterns. -/
abbrev Waits (i : Nat) : Host τ → Host τ → Prop :=
  Relation.ReflTransGen fun h h' => Step h h' ∧ h'.inFlight i = h.inFlight i

/-- A call for a synchronisation of a client returns, at once or with the end of the request that it
waits for, and has itself sent some requests. -/
inductive Returns (h : Host τ) (i : Nat) (mode : SyncMode τ) (caller : Caller) :
    List Outbound → SyncEnd → Prop
  | atOnce {h' : Host τ} {e : SyncEnd} : h.callSync i mode caller = (h', some e) →
      Returns h i mode caller (h.sentSince h') e
  | landed {h₁ h₂ h₃ : Host τ} {before after : List (Held τ)} {x : Held τ} {mode' : SyncMode τ}
      {caller' : Caller} {e : SyncEnd} : h.callSync i mode caller = (h₁, none) → Waits i h₁ h₂ →
      h₂.held = before ++ x :: after → x.client = i → x.task = .sync mode' caller' →
      { h₂ with held := before ++ after }.endSync i mode' x.outcome = (h₃, e) →
      Returns h i mode caller (h.sentSince h₁ ++ h₂.sentSince h₃) e

section Calls

variable {h h' h₁ h₂ : Host τ} {i : Nat} {c : Client τ} {mode : SyncMode τ} {caller : Caller}

omit [TimeScale τ] in
theorem sentSince_of_seen {requests : List Outbound}
    (hs : h'.peer.seen = h.peer.seen ++ requests) : h.sentSince h' = requests := by
  rw [sentSince, hs, List.drop_left]

theorem Waits.inFlight (hw : Waits i h₁ h₂) : h₂.inFlight i = h₁.inFlight i := by
  induction hw with
  | refl => rfl
  | tail _ hstep ih => exact hstep.2.trans ih

theorem exists_receive_of_endSync {outcome : Outcome} {r : SyncResult}
    (he : (h.endSync i mode outcome).2 = .ok (some r)) :
    ∃ now, outcome.receive now = .ok r := by
  rcases hc : h.client? i with _ | c
  · simp [endSync_of_none hc] at he
  · rw [endSync_end hc] at he
    refine ⟨TimeScale.toDateTime h.clock, ?_⟩
    rcases hr : outcome.receive (TimeScale.toDateTime h.clock) with x | r' <;>
      simp only [hr, Except.map, Except.ok.injEq, Option.some.injEq, reduceCtorEq] at he
    rw [he]

section Requested

variable {result : Host τ × Option SyncEnd} (hr : Requested h i c mode caller result)

include hr

theorem Requested.received {r : SyncResult} (he : result.2 = some (.ok (some r))) :
    ∃ now, h.peer.nextOutcome.receive now = .ok r := by
  cases hr with
  | answered => exact exists_receive_of_endSync (Option.some.inj he)
  | givenUp => simp at he
  | held => simp at he

/-- A call that goes on without the end of its request has the client wait for it. -/
theorem Requested.waiting (he : result.2 = none) :
    result.1.inFlight i = h.inFlight i ++ [{ client := i, task := .sync mode caller,
                                             outcome := h.peer.nextOutcome }] := by
  cases hr with
  | answered => simp at he
  | givenUp => simp at he
  | held => simp [inFlight, Held.isSyncOf, Task.isEvent]

end Requested

/-- A result of a call is the obstacle to it, or it is what comes of the one request that the call
sends, and then the client was free. -/
theorem Returns.result {sent : List Outbound} {r : SyncResult} (hf : SingleFlight h)
    (hc : h.client? i = some c) (hret : Returns h i mode caller sent (.ok (some r))) :
    (∃ e, c.syncObstacle? = some e ∧ r = .error e ∧ sent = [])
      ∨ c.syncObstacle? = none ∧ sent = [c.patternsRequest]
        ∧ ∃ now, h.peer.nextOutcome.receive now = .ok r := by
  have hcases := callSync_cases hc mode caller
  cases hret with
  | atOnce hcall =>
    rw [hcall] at hcases
    cases hcases with
    | refused he => exact .inl ⟨_, he, rfl, sentSince_of_seen (List.append_nil _).symm⟩
    | requested ho hr => exact .inr ⟨ho, sentSince_of_seen hr.seen, hr.received rfl⟩
  | @landed h₁ h₂ h₃ before after x _ _ _ hcall hwaits hx hclient htask hland =>
    rw [hcall] at hcases
    cases hcases with
    | @requested notices _ ho hr =>
      -- The client was free, so what it waits for is the request that this call has sent.
      have hfree : (h.note notices).inFlight i = [] :=
        (hf.inFlight_eq_nil_iff hc).2 (syncObstacle?_eq_none_iff.1 ho).2
      have hwait := hwaits.inFlight.trans (hr.waiting rfl)
      have hmem : x ∈ h₂.inFlight i := by
        simp [inFlight, hx, Held.isSyncOf, hclient, htask, Task.isEvent]
      rw [hwait, hfree, List.nil_append, List.mem_singleton] at hmem
      have hpeer := endSync_peer { h₂ with held := before ++ after } i ‹_› x.outcome
      rw [hland] at hpeer
      have hsecond : h₂.sentSince h₃ = [] :=
        sentSince_of_seen (by rw [hpeer, List.append_nil])
      refine .inr ⟨ho, ?_, ?_⟩
      · rw [hsecond, List.append_nil]
        exact sentSince_of_seen hr.seen
      · have hreceived := exists_receive_of_endSync (congrArg Prod.snd hland)
        rwa [hmem] at hreceived

/-- Whenever a call for a synchronisation returns a result, its class tells why. Without a key it is an
error of the configuration, and with a key it is the error that another one is in progress exactly if
the client waits for a request for patterns; neither sends a request. Otherwise one request has been
sent, to the endpoint for patterns, and the result is classified by how that request ends. -/
theorem result_classified {h₀ : Host τ} (hheld : h₀.held = [])
    (hfree : ∀ c ∈ h₀.clients, c.syncing = false) (hs : Steps h₀ h) (hc : h.client? i = some c)
    {sent : List Outbound} {r : SyncResult}
    (hret : Returns h i mode caller sent (.ok (some r))) :
    ((errorKind? r = some "ConfigurationError" ↔ c.settings.isConfigured = false)
        ∧ (c.settings.isConfigured = false → sent = []))
      ∧ (c.settings.isConfigured = true →
        (errorKind? r = some "SyncInProgressError" ↔ h.inFlight i ≠ [])
          ∧ (h.inFlight i ≠ [] → sent = []))
      ∧ (c.settings.isConfigured = true → h.inFlight i = [] →
        (∃ request, sent = [request] ∧ request.method = .get
            ∧ request.url = c.settings.patternsEndpoint)
          ∧ ∃ now, Outcome.Classified now h.peer.nextOutcome r)
      ∧ ∀ (fault : FaultClass) (message : String),
        (TransferFault.ofClass fault message).OfRequest ↔ fault.isA .requestError = true := by
  have hf : SingleFlight h := singleFlight_steps hs (singleFlight_of_free hheld hfree)
  have hlocked := hf.inFlight_eq_nil_iff hc
  refine and_assoc.1 (and_assoc.1 ⟨?_, fun _ _ => TransferFault.ofRequest_ofClass_iff⟩)
  rcases hret.result hf hc with ⟨e, he, rfl, rfl⟩ | ⟨ho, rfl, now, hr⟩
  · unfold Client.syncObstacle? at he
    split_ifs at he with hk hs <;> obtain rfl := Option.some.inj he
    · have hk : c.settings.isConfigured = false := by simpa using hk
      simp [hk, errorKind?, SyncError.kind]
    · have hk : c.settings.isConfigured = true := by simpa using hk
      simp [hk, hlocked, hs, errorKind?, SyncError.kind]
  · obtain ⟨hk, hs⟩ := syncObstacle?_eq_none_iff.1 ho
    have hreceived := Outcome.received_of_receive hr
    obtain ⟨hnoKey, hfree⟩ := hreceived.errorKind?_ne
    refine ⟨⟨⟨by simp [hk, hnoKey], by simp [hk]⟩, fun _ => ⟨by simp [hlocked, hs, hfree], ?_⟩⟩, ?_⟩
    · exact fun hne => absurd (hlocked.2 hs) hne
    · exact fun _ _ => ⟨⟨_, rfl, rfl, rfl⟩, now, hreceived.classified⟩

end Calls

/-- A page that is missing, when the peer lets the request go, is told as an error with its status, and
one request was sent for that. -/
theorem missing_page_classified :
    ∃ c sent r, (answering [{ outcome := .response 404 [], held := true }]).client? 0 = some c
      ∧ c.settings.isConfigured = true
      ∧ Returns (answering [{ outcome := .response 404 [], held := true }]) 0 .plain (.call 0) sent
        (.ok (some r))
      ∧ sent.length = 1 ∧ errorKind? r = some "HttpError" := by
  obtain ⟨c, hc, hk⟩ : ∃ c,
      (answering [{ outcome := .response 404 [], held := true }]).client? 0 = some c
        ∧ c.settings.isConfigured = true := ⟨_, rfl, rfl⟩
  have hfree : ∀ c ∈ (answering [{ outcome := .response 404 [], held := true }]).clients,
      c.syncing = false := by simp [answering]
  obtain ⟨sent, r, hret⟩ : ∃ sent r,
      Returns (answering [{ outcome := .response 404 [], held := true }]) 0 .plain (.call 0) sent
        (.ok (some r)) :=
    ⟨_, _, .landed rfl .refl (show _ = [] ++ _ :: [] from rfl) rfl rfl rfl⟩
  obtain ⟨-, -, hsent, -⟩ := result_classified rfl hfree .refl hc hret
  obtain ⟨⟨request, rfl, -⟩, now, hclass⟩ := hsent hk rfl
  exact ⟨c, _, r, hc, hk, hret, rfl, hclass.http.2 ⟨404, [], rfl, by decide⟩⟩

end Host

end BotSentry
