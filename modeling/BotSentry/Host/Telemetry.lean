import BotSentry.Host.Basic

/-!
# Workers at work

Workers take events as long as there are any and send them, until the peer holds their requests back or
an unexpected fault ends them.
-/

namespace BotSentry.Host

variable {τ : Type} [TimeScale τ]

/-- The end of the sending of an event by a worker. -/
def finishEvent (h : Host τ) (i worker : Nat) (outcome : Outcome) : Host τ :=
  match h.client? i with
  | none => h
  | some c =>
    let (notices, result) := outcome.delivered c.settings.collectorEndpoint
    let reporter := c.reporter.finish worker result.isOk
    (h.setClient i { c with reporter }).note notices

/-- A worker sends the event that it has taken. One that cannot be written ends the worker. -/
def sendEvent (h : Host τ) (i worker : Nat) (c : Client τ) (e : Event) : Host τ :=
  match Text.encode (e.toJson.write false) with
  | .error _ => h.setClient i { c with reporter := c.reporter.finish worker false }
  | .ok _ =>
    match (h.setClient i c).ask i (.event worker) (c.eventRequest e.toJson) with
    | (h, none) => h
    | (h, some outcome) => h.finishEvent i worker outcome

/-- Lets the workers of a client take up to `n` events. -/
def runWorkers (h : Host τ) (i : Nat) : Nat → Host τ
  | 0 => h
  | n + 1 =>
    match h.client? i with
    | none => h
    | some c =>
      match c.reporter.take? with
      | none => h
      | some (worker, e, reporter) =>
        (h.sendEvent i worker { c with reporter } e).runWorkers i n

/-- Lets the workers of a client go on until they wait for events or for the peer. -/
def workOn (h : Host τ) (i : Nat) : Host τ :=
  match h.client? i with
  | none => h
  | some c => h.runWorkers i c.reporter.waiting.length

/-- Lets all workers go on. -/
def settle (h : Host τ) : Host τ :=
  (List.range h.clients.length).foldl workOn h

/-- Sends a document to the collector at once. -/
def sendNow (h : Host τ) (c : Client τ) (document : Json) : Host τ × Except Interruption Bool :=
  match Text.encode (document.write false) with
  | .error fault => (h, .error (.surrogates fault))
  | .ok _ =>
    match h.askNow (c.eventRequest document) with
    | (h, none) => (h, .error .timedOut)
    | (h, some outcome) =>
      let (notices, result) := outcome.delivered c.settings.collectorEndpoint
      (h.note notices, result.mapError .transfer)

/-- Starts a client. -/
def start (h : Host τ) (i : Nat) : Host τ :=
  match h.client? i with
  | none => h
  | some c =>
    let (c, notices) := c.start
    (h.setClient i c).note notices

/-- Stops a client: its events have some time to be sent, and what is left then waits for another
start. -/
def stop (h : Host τ) (i : Nat) (hasTime : Bool) : Host τ :=
  match h.client? i with
  | none => h
  | some c =>
    if !c.reporter.isRunning then h
    else
      let late := !hasTime || 0 < c.reporter.unfinished
      let notices := if late then [.drainTimeout c.reporter.waiting.length] else []
      let h := (h.setClient i { c with reporter := c.reporter.halt }).note notices
      { h with held := h.held.filter fun x => !(x.client = i && x.task.isEvent) }

end BotSentry.Host
