import BotSentry.Notice
import BotSentry.Peer.Transfer
import BotSentry.Telemetry.Event

/-!
# The reporter

Events wait in a queue of limited size until a worker takes them, oldest first, and sends them one
at a time. An event is unfinished from the moment it is queued until its sending has come to an end. A
worker that meets an unexpected fault never takes another event.
-/

namespace BotSentry

inductive Worker where
  | idle
  | sending (event : Event)
  | dead
  deriving DecidableEq

def Worker.isSending : Worker → Bool
  | .sending _ => true
  | _ => false

structure Reporter where
  /-- The queue, oldest first. -/
  waiting : List Event := []
  unfinished : Nat := 0
  dropped : Nat := 0
  /-- There are none unless the reporter has been started. -/
  workers : List Worker := []
  deriving DecidableEq

namespace Reporter

def isRunning (r : Reporter) : Bool := !r.workers.isEmpty

/-- Whether a queue of this length takes another event; a size of zero or less is no limit. -/
def hasRoom (size : Int) (length : Nat) : Bool := size ≤ 0 || (length : Int) < size

/-- Queues an event, or drops it where the queue is full. -/
def offer (r : Reporter) (size : Int) (e : Event) : Reporter × Bool :=
  if hasRoom size r.waiting.length then
    ({ r with waiting := r.waiting ++ [e], unfinished := r.unfinished + 1 }, true)
  else ({ r with dropped := r.dropped + 1 }, false)

/-- The events that a new queue of some size takes over. -/
def taken (size : Int) (events : List Event) : List Event :=
  if size ≤ 0 then events else events.take size.toNat

/-- Starts at least one worker, on a new queue with the events of the old one. -/
def start (r : Reporter) (size workers : Int) : Reporter :=
  if r.isRunning then r
  else
    let waiting := taken size r.waiting
    { r with
      waiting
      unfinished := waiting.length
      workers := List.replicate (max 1 workers).toNat .idle }

/-- The first idle worker takes the oldest event. -/
def take? (r : Reporter) : Option (Nat × Event × Reporter) :=
  match r.waiting with
  | [] => none
  | e :: rest =>
    (r.workers.findIdx? (· = .idle)).map fun i =>
      (i, e, { r with waiting := rest, workers := r.workers.set i (.sending e) })

/-- A worker has ended the sending of its event, and goes on if it can. -/
def finish (r : Reporter) (i : Nat) (goesOn : Bool) : Reporter :=
  { r with
    unfinished := r.unfinished - 1
    workers := r.workers.set i (if goesOn then .idle else .dead) }

/-- How many events are being sent. -/
def sending (r : Reporter) : Nat := r.workers.countP (·.isSending)

/-- Ends all workers; what they were sending is given up. -/
def halt (r : Reporter) : Reporter :=
  { r with unfinished := r.unfinished - r.sending, workers := [] }

end Reporter

/-- What comes of sending an event, and what is reported about it. -/
def Outcome.delivered (outcome : Outcome) (endpoint : String) :
    List Notice × Except TransferFault Bool :=
  match outcome with
  | .response status _ =>
    if Http.isSuccess status then ([], .ok true)
    else ([.sendRejected endpoint status (Http.reason status)], .ok false)
  | .fault f =>
    match f.kind with
    | .timeout | .request | .transfer => ([.sendFailed endpoint f.message], .ok false)
    | .foreign => ([], .error f)

end BotSentry
