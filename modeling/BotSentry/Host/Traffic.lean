import BotSentry.Guard.Exclusion
import BotSentry.Host.Sync
import BotSentry.Http.Response

/-!
# Traffic

Every request passes a client before it reaches the application of the host. A blocked one is denied
without the application; the answer to any other detected one says that it depends on the user agent.
Detected requests are reported with the status of their answer.
-/

namespace BotSentry

/-- The application behind a client: what it does on the host, and its answer. -/
abbrev App (τ : Type) := Host τ → Host τ × Except Interruption Response

/-- What was done with a request. -/
structure Handled where
  response : Option Response := none
  interruption : Option Interruption := none
  appRan : Bool := false

namespace Handled

def ofApp : Except Interruption Response → Handled
  | .ok response => { response := some response, appRan := true }
  | .error i => { interruption := some i, appRan := true }

/-- The application ran, but its answer is lost. -/
def lost (i : Interruption) : Handled where
  interruption := some i
  appRan := true

def interrupted (i : Interruption) : Handled where
  interruption := some i

end Handled

/-- Seconds as whole milliseconds, a half going to the even one. -/
def milliseconds (seconds : Float) : Int :=
  Decimal.whole (Seconds.roundHalfEven (seconds * 1000.0))

/-- What is known about a request that has been answered. -/
def Request.visit (r : Request) (l : Location) (status : Nat) (elapsed : Int) : Visit where
  url := some (String.ofList l.text)
  userAgent := some r.userAgent
  address := some r.clientAddress
  method := r.method
  path := String.ofList l.path
  query := some (String.ofList l.query)
  referrer := r.referrer?
  status := some status
  elapsed := some elapsed
  headers := r.headers.grouped

namespace Host

variable {τ : Type} [TimeScale τ]

/-- Reports a visit to a client. -/
def report (h : Host τ) (i : Nat) (d : Detection) (v : Visit) : Host τ × Except Interruption Bool :=
  match h.client? i with
  | none => (h, .ok false)
  | some c =>
    let (c, notices, result) := c.report d v h.clock
    ((h.setClient i c).note notices, result)

/-- Denies a blocked request. -/
def deny (h : Host τ) (i : Nat) (r : Request) (l : Location) (d : Detection) : Host τ × Handled :=
  let h := h.note [.requestBlocked d.kind.name d.pattern (String.ofList l.path) r.clientAddress]
  match h.report i d (r.visit l 403 0) with
  | (h, .error e) => (h, .interrupted e)
  | (h, .ok _) => (h, { response := some .denied })

/-- Lets a request that is not blocked through to the application. -/
def letThrough (h : Host τ) (i : Nat) (r : Request) (l : Location) (d : Detection) (app : App τ) :
    Host τ × Handled :=
  let began := h.timer
  let (h, result) := app h
  if !d.detected then (h, .ofApp result)
  else
    let elapsed := milliseconds (h.timer - began)
    match result with
    | .error e =>
      match h.report i d (r.visit l 500 elapsed) with
      | (h, .error e') => (h, .lost e')
      | (h, .ok _) => (h, .lost e)
    | .ok response =>
      match h.report i d (r.visit l response.status elapsed) with
      | (h, .error e) => (h, .lost e)
      | (h, .ok _) =>
        (h, .ofApp (.ok { response with headers := Headers.addVary response.headers }))

/-- A client deals with a request. -/
def serve (h : Host τ) (i : Nat) (r : Request) (app : App τ) : Host τ × Handled :=
  let pass (h : Host τ) : Host τ × Handled :=
    let (h, result) := app h
    (h, .ofApp result)
  if !r.isHttp then pass h
  else match Location.ofRequest r with
    | .error fault => (h, .interrupted (.location fault))
    | .ok l =>
      match h.client? i with
      | none => pass h
      | some c =>
        if !c.settings.isConfigured || c.settings.excludes l.path then pass h
        else
          let (c, notices, found) := c.detect r.userAgent (r.referrer?.getD "")
          let h := (h.setClient i c).note notices
          match found with
          | .error e => (h, .interrupted e)
          | .ok d => if d.blocked then h.deny i r l d else h.letThrough i r l d app

end Host

end BotSentry
