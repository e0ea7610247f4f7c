import BotSentry.Settings.Basic
import BotSentry.Store.Repository
import BotSentry.Sync.Receipt
import BotSentry.Telemetry.Reporter

/-!
# Clients

A client detects by the dataset in force, reports what it detects, and replaces the dataset when a
synchronisation succeeds. At most one synchronisation runs at a time. A cached dataset is as fresh as
the synchronisation that produced it.
-/

namespace BotSentry

structure Client (τ : Type) where
  settings : Settings
  snapshot : Snapshot
  engine : Engine := {}
  /-- When the dataset was last brought up to date, or zero. -/
  lastSync : τ
  syncing : Bool := false
  reporter : Reporter := {}

/-- How a synchronisation is asked for: in any case, or only if it is due at some time. -/
inductive SyncMode (τ : Type) where
  | plain
  | whenDue (now : τ)

namespace Client

variable {τ : Type} [TimeScale τ]

/-- A client on a cache. -/
def build (settings : Settings) (cache : Cache τ) (now : τ) :
    Except Interruption (Client τ × Cache τ × List Notice) :=
  match cache.dataset now with
  | .error reason => .error (.cache reason)
  | .ok (cached, cache, notices) =>
    let snapshot := Snapshot.initial cached
    let lastSync : Except TimeFault τ :=
      match snapshot.dataset.syncedAt with
      | none => .ok TimeScale.zero
      | some t => TimeScale.ofDateTime t
    match lastSync with
    | .error fault => .error (.time fault)
    | .ok lastSync => .ok ({ settings, snapshot, lastSync }, cache, notices)

/-! ## Detection and reports -/

/-- The client after some work of its engine, and what came of it. -/
def ofOutcome (c : Client τ) (o : Engine.Outcome) :
    Client τ × List Notice × Except Interruption Detection :=
  ({ c with engine := o.engine }, o.notices, o.result.mapError .pattern)

def detect (c : Client τ) (userAgent referrer : String) :
    Client τ × List Notice × Except Interruption Detection :=
  c.ofOutcome (c.engine.detect c.snapshot userAgent referrer)

def detectBot (c : Client τ) (userAgent : String) :
    Client τ × List Notice × Except Interruption Detection :=
  c.ofOutcome (c.engine.detectBot c.snapshot userAgent)

def detectReferrer (c : Client τ) (referrer : String) : Detection :=
  Engine.detectReferrer c.snapshot referrer

/-- The event of a visit at some time. -/
def event (c : Client τ) (d : Detection) (v : Visit) (now : τ) : Except TimeFault Event :=
  match TimeScale.toDateTime now with
  | .error fault => .error fault
  | .ok now => Event.ofVisit d v c.settings.platform now

/-- Queues an event about a detected visit, and says whether it did. -/
def report (c : Client τ) (d : Detection) (v : Visit) (now : τ) :
    Client τ × List Notice × Except Interruption Bool :=
  if !c.settings.isConfigured || !d.detected then (c, [], .ok false)
  else match c.event d v now with
    | .error fault => (c, [], .error (.time fault))
    | .ok e =>
      let (reporter, queued) := c.reporter.offer c.settings.queueSize e
      let notices := if queued then [] else [Notice.queueFull d.kind.name reporter.dropped]
      ({ c with reporter }, notices, .ok queued)

/-! ## Synchronisation -/

/-- Whether the dataset has been in force long enough. -/
def isDue (c : Client τ) (now : τ) : Bool :=
  TimeScale.le (TimeScale.ofSeconds c.settings.cacheTtl) (TimeScale.sub now c.lastSync)

/-- Whether a synchronisation that is asked for at some time is wanted. -/
def wantsSync (c : Client τ) (now : τ) : Bool :=
  c.settings.autoSync && c.settings.isConfigured && c.isDue now && !c.syncing

/-- Why a synchronisation cannot begin. -/
def syncObstacle? (c : Client τ) : Option SyncError :=
  if !c.settings.isConfigured then some .noKey
  else if c.syncing then some .inProgress
  else none

def patternsRequest (c : Client τ) : Outbound where
  method := .get
  url := c.settings.patternsEndpoint
  key := c.settings.apiKey
  timeout := c.settings.syncTimeout

/-- The end of a synchronisation: with a dataset it comes into force and is cached, and without one
nothing changes. -/
def endSync (c : Client τ) (cache : Cache τ) (outcome : Outcome) (now : τ) :
    Client τ × Cache τ × List Notice × Except Interruption SyncResult :=
  let c := { c with syncing := false }
  match outcome.receive (TimeScale.toDateTime now) with
  | .error i => (c, cache, [], .error i)
  | .ok (.error e) => (c, cache, [], .ok (.error e))
  | .ok (.ok d) =>
    let (cache, notices) := cache.keep d (TimeScale.ofSeconds c.settings.cacheTtl) now
    ({ c with snapshot := c.snapshot.install d }, cache, notices, .ok (.ok d))

/-- What a result means for the one who asked: where the synchronisation was due, success sets the
time from which the next one is counted. -/
def conclude (c : Client τ) (mode : SyncMode τ) (result : SyncResult) : Client τ × List Notice :=
  match mode with
  | .plain => (c, [])
  | .whenDue now =>
    match result with
    | .ok d =>
      ({ c with lastSync := now },
        [.syncCompleted d.version d.patterns.length d.referrers.length])
    | .error e => (c, [.syncFailed e.message e.kind])

/-! ## Start and stop -/

def start (c : Client τ) : Client τ × List Notice :=
  ({ c with reporter := c.reporter.start c.settings.queueSize c.settings.workers },
    [.started c.settings.isConfigured c.snapshot.dataset.version
      c.snapshot.dataset.patterns.length])

def eventRequest (c : Client τ) (document : Json) : Outbound where
  method := .post
  url := c.settings.collectorEndpoint
  key := c.settings.apiKey
  timeout := c.settings.collectorTimeout
  body := some document

end Client

end BotSentry
