import BotSentry.Host.Telemetry

/-!
# Synchronisation on a host

A call for a synchronisation ends at once, or its request is held back and it ends when the peer lets
the request go.
-/

namespace BotSentry

/-- Whether a request belongs to a synchronisation for one of some callers. -/
def Held.isSyncFor {τ : Type} (whose : Caller → Bool) (x : Held τ) : Bool :=
  match x.task with
  | .event _ => false
  | .sync _ caller => whose caller

namespace Host

variable {τ : Type} [TimeScale τ]

/-- The end of a client's synchronisation. -/
def endSync (h : Host τ) (i : Nat) (mode : SyncMode τ) (outcome : Outcome) : Host τ × SyncEnd :=
  match h.client? i with
  | none => (h, .ok none)
  | some c =>
    let (c, cache, notices, result) := c.endSync h.cache outcome h.clock
    let h := { h with cache }.note notices
    match result with
    | .error i' => (h.setClient i c, .error i')
    | .ok result =>
      let (c, notices) := c.conclude mode result
      ((h.setClient i c).note notices, .ok (some result))

/-- Begins a synchronisation of a client; without an end it is held back. -/
def requestSync (h : Host τ) (i : Nat) (c : Client τ) (mode : SyncMode τ) (caller : Caller) :
    Host τ × Option SyncEnd :=
  let h := h.setClient i { c with syncing := true }
  match caller with
  | .host =>
    match h.askNow c.patternsRequest with
    | (h, some outcome) =>
      let (h, result) := h.endSync i mode outcome
      (h, some result)
    | (h, none) => (h.setClient i c, some (.error .timedOut))
  | _ =>
    match h.ask i (.sync mode caller) c.patternsRequest with
    | (h, some outcome) =>
      let (h, result) := h.endSync i mode outcome
      (h, some result)
    | (h, none) => (h, none)

/-- A call for a synchronisation of a client. -/
def callSync (h : Host τ) (i : Nat) (mode : SyncMode τ) (caller : Caller) :
    Host τ × Option SyncEnd :=
  match h.client? i with
  | none => (h, some (.ok none))
  | some c =>
    match mode with
    | .plain =>
      match c.syncObstacle? with
      | some e => (h, some (.ok (some (.error e))))
      | none => h.requestSync i c mode caller
    | .whenDue now =>
      if c.wantsSync now then
        (h.note [.syncStarting c.settings.patternsEndpoint]).requestSync i c mode caller
      else (h, some (.ok none))

/-- Hands the end of a synchronisation to the one who waits for it. -/
def deliver (h : Host τ) (caller : Caller) (result : SyncEnd) : Host τ :=
  match caller with
  | .host => h
  | .call number => { h with calls := h.calls.set number (some result) }
  | .loop =>
    match result with
    | .error i => h.note [.syncTickFailed i.message]
    | .ok _ => h

/-- Calls for a synchronisation and waits for it. -/
def sync (h : Host τ) (i : Nat) (mode : SyncMode τ) : Host τ × SyncEnd :=
  let (h, result) := h.callSync i mode .host
  (h, result.getD (.ok none))

/-- Calls for a synchronisation without waiting for it. -/
def syncFor (h : Host τ) (i : Nat) (mode : SyncMode τ) (caller : Caller) : Host τ :=
  match h.callSync i mode caller with
  | (h, some result) => h.deliver caller result
  | (h, none) => h

/-- Calls for a synchronisation in the background. -/
def syncBehind (h : Host τ) (i : Nat) (mode : SyncMode τ) : Host τ :=
  let number := h.calls.length
  { h with calls := h.calls ++ [none] }.syncFor i mode (.call number)

/-- Goes on with a request that the peer lets go. -/
def resume (h : Host τ) (x : Held τ) : Host τ :=
  match x.task with
  | .event worker => (h.finishEvent x.client worker x.outcome).workOn x.client
  | .sync mode caller =>
    let (h, result) := h.endSync x.client mode x.outcome
    h.deliver caller result

/-- The peer lets all requests go, also those that are sent meanwhile. -/
def release (h : Host τ) : Host τ :=
  let waiting := h.held
  let h := { h with held := [], peer := { h.peer with letsGo := true } }
  let h := waiting.foldl resume h
  { h with peer := { h.peer with letsGo := false } }

/-- A client gives up the synchronisation for which it waits for a request. -/
def free (h : Host τ) (x : Held τ) : Host τ :=
  match h.client? x.client with
  | none => h
  | some c => h.setClient x.client { c with syncing := false }

/-- Cancels the synchronisations of some callers that are held back. -/
def cancel (h : Host τ) (whose : Caller → Bool) : Host τ :=
  (h.held.filter (·.isSyncFor whose)).foldl free
    { h with held := h.held.filter (!·.isSyncFor whose) }

def isCall : Caller → Bool
  | .call _ => true
  | _ => false

/-- The ends of all calls in the background, which are then forgotten. Calls that have no end yet are
cancelled. -/
def join (h : Host τ) : Host τ × Except Interruption (List SyncEnd) :=
  match h.calls.mapM id with
  | some ends => ({ h with calls := [] }, .ok ends)
  | none => ({ h.cancel isCall with calls := [] }, .error .timedOut)

end Host

end BotSentry
