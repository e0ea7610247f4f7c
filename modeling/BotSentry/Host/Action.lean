import BotSentry.Host.Admin

/-!
# What happens to a host

Everything that the host's clients are asked to do, and what happens around them: clocks move, the
peer prepares answers and lets requests go, the cache gets out of reach. After every action the
workers go on as far as they can.
-/

namespace BotSentry

/-- An application that takes some seconds and then answers or fails. -/
structure FixedApp where
  elapsed : Float := 0.0
  outcome : Except AppFault Response

def FixedApp.toApp {τ : Type} (a : FixedApp) : App τ := fun h =>
  ({ h with timer := h.timer + a.elapsed }, a.outcome.mapError .app)

inductive Action (τ : Type) where
  | detect (userAgent referrer : String)
  | detectBot (userAgent : String)
  | detectReferrer (referrer : String)
  | report (userAgent referrer : String) (visit : Visit)
  /-- The peer prepares answers. -/
  | prepare (answers : List Answer)
  | release
  | sync (behind : Bool)
  | syncWhenDue (now : Option τ) (behind : Bool)
  | join
  | isDue (now : Option τ)
  | markSynced (now : Option τ)
  | replace (dataset : Dataset)
  | advance (seconds : τ)
  /-- The cache gets out of reach or comes back. -/
  | reach (noReading noWriting : Option String)
  | readCache
  | loadCached
  /-- A new client comes into use. -/
  | build (settings : Settings)
  | start
  | stop (hasTime : Bool)
  | flush
  | send (document : Json)
  | serve (request : Request) (app : FixedApp)
  | serveOwn (request : Request)
  | live (loops : Bool) (requests : List Request)

inductive Reply (τ : Type) where
  | done
  | detection (d : Detection)
  | flag (b : Bool)
  | count (n : Nat)
  | time (t : τ)
  | synced (result : Option SyncResult)
  | ends (ends : List SyncEnd)
  | version (t : Text)
  | bytes (value : Option Bytes)
  | dataset (d : Option Dataset)
  | handled (h : Handled)
  | life (l : Life)

namespace Host

variable {τ : Type} [TimeScale τ]

/-- Lets the client in use do something of its own. -/
def letClient (h : Host τ)
    (f : Client τ → Client τ × List Notice × Except Interruption (Reply τ)) :
    Host τ × Except Interruption (Reply τ) :=
  match h.client? h.current with
  | none => (h, .ok .done)
  | some c =>
    let (c, notices, reply) := f c
    ((h.setClient h.current c).note notices, reply)

/-- Asks the client in use for something that does not change it. -/
def askClient (h : Host τ) (f : Client τ → Reply τ) : Host τ × Except Interruption (Reply τ) :=
  (h, .ok (((h.client? h.current).map f).getD .done))

/-- Brings a dataset into force and caches it. -/
def replace (h : Host τ) (d : Dataset) : Host τ × Except Interruption (Reply τ) :=
  match h.client? h.current with
  | none => (h, .ok .done)
  | some c =>
    let (cache, notices) :=
      h.cache.keep d (TimeScale.ofSeconds c.settings.cacheTtl) h.clock
    let c := { c with snapshot := c.snapshot.install d }
    (({ h with cache }.setClient h.current c).note notices, .ok (.version c.snapshot.dataset.version))

/-- Detects and reports. -/
def detectAndReport (h : Host τ) (userAgent referrer : String) (v : Visit) :
    Host τ × Except Interruption (Reply τ) :=
  h.letClient fun c =>
    let (c, notices, found) := c.detect userAgent referrer
    match found with
    | .error e => (c, notices, .error e)
    | .ok d =>
      let (c, more, queued) := c.report d v h.clock
      (c, notices ++ more, queued.map .flag)

def syncAction (h : Host τ) (mode : SyncMode τ) (behind : Bool) :
    Host τ × Except Interruption (Reply τ) :=
  if behind then (h.syncBehind h.current mode, .ok .done)
  else
    let (h, result) := h.sync h.current mode
    (h, result.map .synced)

/-- An action without what the workers do after it. -/
def perform (h : Host τ) : Action τ → Host τ × Except Interruption (Reply τ)
  | .detect userAgent referrer => h.letClient fun c =>
    let (c, notices, found) := c.detect userAgent referrer
    (c, notices, found.map .detection)
  | .detectBot userAgent => h.letClient fun c =>
    let (c, notices, found) := c.detectBot userAgent
    (c, notices, found.map .detection)
  | .detectReferrer referrer => h.askClient fun c => .detection (c.detectReferrer referrer)
  | .report userAgent referrer v => h.detectAndReport userAgent referrer v
  | .prepare answers =>
    let answers := h.peer.answers ++ answers
    ({ h with peer := { h.peer with answers } }, .ok (.count answers.length))
  | .release => (h.release, .ok .done)
  | .sync behind => h.syncAction .plain behind
  | .syncWhenDue now behind => h.syncAction (.whenDue (now.getD h.clock)) behind
  | .join =>
    let (h, ends) := h.join
    (h, ends.map .ends)
  | .isDue now => h.askClient fun c => .flag (c.isDue (now.getD h.clock))
  | .markSynced now => h.letClient fun c =>
    let lastSync := now.getD h.clock
    ({ c with lastSync }, [], .ok (.time lastSync))
  | .replace d => h.replace d
  | .advance seconds =>
    let clock := TimeScale.add h.clock seconds
    ({ h with clock }, .ok (.time clock))
  | .reach noReading noWriting =>
    ({ h with cache := { h.cache with noReading, noWriting } }, .ok .done)
  | .readCache =>
    match h.cache.get Dataset.cacheKey h.clock with
    | .error reason => (h, .error (.cache reason))
    | .ok (value, cache) => ({ h with cache }, .ok (.bytes value))
  | .loadCached =>
    match h.cache.dataset h.clock with
    | .error reason => (h, .error (.cache reason))
    | .ok (d, cache, notices) => ({ h with cache }.note notices, .ok (.dataset d))
  | .build settings =>
    match h.build settings with
    | (h, .error e) => (h, .error e)
    | (h, .ok ()) => h.askClient fun c => .version c.snapshot.dataset.version
  | .start => (h.start h.current, .ok .done)
  | .stop hasTime => (h.stop h.current hasTime, .ok .done)
  | .flush =>
    match h.client? h.current with
    | none => (h, .ok .done)
    | some c =>
      if 0 < c.reporter.unfinished then (h, .error .timedOut)
      else (h, .ok (.count c.reporter.waiting.length))
  | .send document =>
    match h.client? h.current with
    | none => (h, .ok .done)
    | some c =>
      let (h, result) := h.sendNow c document
      (h, result.map .flag)
  | .serve r app =>
    let (h, handled) := h.serve h.current r app.toApp
    (h, .ok (.handled handled))
  | .serveOwn r =>
    let (h, handled) := h.serveOwn h.current r
    (h, .ok (.handled handled))
  | .live loops requests =>
    let (h, life) := h.live h.current loops requests
    (h, .ok (.life life))

/-- An action, and what the workers do after it. -/
def act (h : Host τ) (a : Action τ) : Host τ × Except Interruption (Reply τ) :=
  let (h, reply) := h.perform a
  (h.settle, reply)

/-- The host after some actions. -/
def run (h : Host τ) (actions : List (Action τ)) : Host τ :=
  actions.foldl (fun h a => (h.act a).1) h

end Host

end BotSentry
