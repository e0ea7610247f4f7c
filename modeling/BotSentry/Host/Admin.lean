import BotSentry.Host.Traffic

/-!
# The host's own application

It tells whether the host is well, and whoever knows the key of the client can ask for the state of
its dataset or for a synchronisation. A path with slashes too many leads to the one without them.
-/

namespace BotSentry

inductive Route where
  | health
  | sync
  | status
  deriving DecidableEq, Repr

namespace Route

def path : Route → String
  | health => "/health"
  | sync => "/admin/spyglasses/sync"
  | status => "/admin/spyglasses/status"

def method : Route → String
  | sync => "POST"
  | health | status => "GET"

/-- The route of a path; a line break at its end does not count. -/
def ofPath? (path : List Char) : Option Route :=
  [health, sync, status].find? fun route =>
    let own := route.path.toList
    path = own || path = own ++ ['\n']

/-- The path without the slashes at its end. -/
def withoutSlashes (path : List Char) : List Char :=
  (path.reverse.dropWhile (· = '/')).reverse

end Route

namespace Client

variable {τ : Type} [TimeScale τ]

/-- The time of the last synchronisation, if there was one. -/
def lastSyncText (c : Client τ) : Except TimeFault Json :=
  if TimeScale.isZero c.lastSync then .ok .null
  else (TimeScale.toDateTime c.lastSync).map fun t => .str (Text.ofChars t.fullChars)

/-- The state of a client's dataset. -/
def statusJson (c : Client τ) : Except TimeFault Json :=
  c.lastSyncText.map fun lastSync => .mkObj [
    ("version", .str c.snapshot.dataset.version),
    ("patterns", .int c.snapshot.dataset.patterns.length),
    ("ai_referrers", .int c.snapshot.dataset.referrers.length),
    ("synced_at", .ofOption (c.snapshot.dataset.syncedAt.map fun t => Text.ofChars t.fullChars)),
    ("last_sync_time", lastSync),
    ("auto_sync", .bool c.settings.autoSync),
    ("sync_in_progress", .bool c.syncing),
    ("telemetry_pending", .int c.reporter.waiting.length),
    ("telemetry_dropped", .int c.reporter.dropped)]

/-- Why a request may not ask the client anything. -/
inductive Refusal where
  | notConfigured
  | wrongKey
  | foreignKey
  deriving DecidableEq, Repr

/-- Whether a request with this key may ask. -/
def refusal? (c : Client τ) (key : Option String) : Option Refusal :=
  if !c.settings.isConfigured then some .notConfigured
  else match key with
    | none => some .wrongKey
    | some key =>
      if key.isEmpty then some .wrongKey
      else if !(key.toList.all (·.toNat < 0x80)) then some .foreignKey
      else if key = c.settings.apiKey then none
      else some .wrongKey

end Client

/-- The visible course of a run of the host's own application. -/
structure Life where
  running : Bool
  answers : List Handled
  runningAfter : Bool

namespace Host

variable {τ : Type} [TimeScale τ]

def sent (r : Except Text.EncodeFault Response) : Except Interruption Response :=
  r.mapError .surrogates

def healthAnswer : Except Interruption Response :=
  sent (Response.json 200 [] (.mkObj [("status", .ofString "ok"), ("service", .ofString "spyglasses"),
    ("version", .ofString "0.1.0")]))

def statusAnswer (c : Client τ) : Except Interruption Response :=
  match c.statusJson with
  | .error fault => .error (.time fault)
  | .ok v => sent (Response.json 200 [] v)

/-- Synchronises a client in any case; success sets the time from which the next synchronisation is
counted. -/
def adminSync (h : Host τ) (i : Nat) : Host τ × Except Interruption Response :=
  match h.sync i .plain with
  | (h, .error e) => (h, .error e)
  | (h, .ok none) => (h, sent (Response.detail 404 [] "Not Found"))
  | (h, .ok (some (.error e))) =>
    (h.note [.manualSyncFailed e.message],
      sent (Response.detail 502 [] ("Failed to sync patterns: " ++ e.message)))
  | (h, .ok (some (.ok d))) =>
    let h := match h.client? i with
      | none => h
      | some c => h.setClient i { c with lastSync := h.clock }
    (h.note [.manualSyncCompleted d.patterns.length],
      sent (Response.json 200 [] (.mkObj [
        ("status", .ofString "ok"),
        ("version", .str d.version),
        ("patterns", .int d.patterns.length),
        ("ai_referrers", .int d.referrers.length)])))

/-- Answers a request that only the owner of the key may send. -/
def adminAnswer (h : Host τ) (i : Nat) (r : Request) (answer : Client τ → App τ) :
    Host τ × Except Interruption Response :=
  match h.client? i with
  | none => (h, sent (Response.detail 404 [] "Not Found"))
  | some c =>
    match c.refusal? (r.headers.first? "x-api-key") with
    | some .notConfigured =>
      (h, sent (Response.detail 503 [] "Spyglasses API key is not configured."))
    | some .wrongKey => (h, sent (Response.detail 403 [] "Invalid API key"))
    | some .foreignKey => (h, .error .foreignKey)
    | none => answer c h

/-- Where a request with slashes too many has to go. -/
def redirect? (r : Request) : Option (List Char) :=
  let path := Route.withoutSlashes r.path.toList
  if r.path = "/" || path = r.path.toList || (Route.ofPath? path).isNone then none
  else (Location.textOf { r with path := String.ofList path }).toOption

/-- The application's answer to a request. -/
def route (i : Nat) (r : Request) : App τ := fun h =>
  match Route.ofPath? r.path.toList with
  | none =>
    match redirect? r with
    | some url =>
      (h, .ok { status := 307, headers := [("content-length", "0"),
        ("location", String.ofList (Location.quoted url))] })
    | none => (h, sent (Response.detail 404 [] "Not Found"))
  | some page =>
    if r.method != page.method then
      (h, sent (Response.detail 405 [("allow", page.method)] "Method Not Allowed"))
    else match page with
      | .health => (h, healthAnswer)
      | .sync => h.adminAnswer i r fun _ h => h.adminSync i
      | .status => h.adminAnswer i r fun c h => (h, statusAnswer c)

/-- A request to the host's own application. An interruption is answered too, but goes on. -/
def serveOwn (h : Host τ) (i : Nat) (r : Request) : Host τ × Handled :=
  let (h, handled) := h.serve i r (route i r)
  match handled.interruption, handled.response with
  | some _, none => (h, { handled with response := some .failed })
  | _, _ => (h, handled)

def isRunning (h : Host τ) (i : Nat) : Bool :=
  (h.client? i).any (·.reporter.isRunning)

def isLoop : Caller → Bool
  | .loop => true
  | _ => false

/-- Starts a client together with the application. With `loops`, it synchronises when that is due. -/
def enter (h : Host τ) (i : Nat) (loops : Bool) : Host τ :=
  match h.client? i with
  | none => h
  | some c =>
    let h := (h.note [.hostStarting c.settings.isConfigured c.settings.autoSync]).start i
    let h := h.settle
    if loops && c.settings.autoSync then h.syncFor i (.whenDue h.clock) .loop else h

/-- Serves requests one after the other. -/
def serveAll (h : Host τ) (i : Nat) : List Request → Host τ × List Handled
  | [] => (h, [])
  | r :: rest =>
    let (h, handled) := h.serveOwn i r
    let (h, others) := h.settle.serveAll i rest
    (h, handled :: others)

/-- Stops a client together with the application. -/
def leave (h : Host τ) (i : Nat) : Host τ :=
  ((h.cancel isLoop).stop i true).note [.hostStopping]

/-- Runs the application for some requests. -/
def live (h : Host τ) (i : Nat) (loops : Bool) (requests : List Request) : Host τ × Life :=
  let h := h.enter i loops
  let running := h.isRunning i
  let (h, answers) := h.serveAll i requests
  let h := h.leave i
  (h, { running, answers, runningAfter := h.isRunning i })

end Host

end BotSentry
