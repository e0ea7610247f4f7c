import BotSentry.Client

/-!
# Hosts

A host has clocks, a cache and the service as its peer, and clients that replace each other: the last
one is in use, and the workers of the others go on. Requests that the peer holds back are remembered
together with what has to be done when they end.
-/

namespace BotSentry

/-- The end of a call for a synchronisation: interrupted, skipped, or with a result. -/
abbrev SyncEnd := Except Interruption (Option SyncResult)

/-- Who waits for a synchronisation. -/
inductive Caller where
  /-- Nobody else: the host waits itself. -/
  | host
  /-- A call in the background. -/
  | call (number : Nat)
  /-- The loop that asks again and again whether one is due. -/
  | loop
  deriving DecidableEq, Repr

/-- What has to be done when a request ends. -/
inductive Task (τ : Type) where
  | event (worker : Nat)
  | sync (mode : SyncMode τ) (caller : Caller)

def Task.isEvent {τ : Type} : Task τ → Bool
  | .event _ => true
  | .sync .. => false

/-- A request of a client that the peer holds back, and how it is going to end. -/
structure Held (τ : Type) where
  client : Nat
  task : Task τ
  outcome : Outcome

structure Host (τ : Type) where
  clock : τ
  /-- A second clock, for durations in seconds. -/
  timer : Float := 0.0
  cache : Cache τ := {}
  peer : Peer := {}
  /-- All clients, the one in use last. -/
  clients : List (Client τ) := []
  /-- Requests that are held back, in the order in which they were sent. -/
  held : List (Held τ) := []
  /-- The calls in the background, with their ends. -/
  calls : List (Option SyncEnd) := []
  notices : List Notice := []

namespace Host

variable {τ : Type} [TimeScale τ]

/-- The number of the client in use. -/
def current (h : Host τ) : Nat := h.clients.length - 1

def client? (h : Host τ) (i : Nat) : Option (Client τ) := h.clients[i]?

def setClient (h : Host τ) (i : Nat) (c : Client τ) : Host τ :=
  { h with clients := h.clients.set i c }

def note (h : Host τ) (notices : List Notice) : Host τ :=
  { h with notices := h.notices ++ notices }

/-- Puts a new client into use. -/
def build (h : Host τ) (settings : Settings) : Host τ × Except Interruption Unit :=
  match Client.build settings h.cache h.clock with
  | .error i => (h, .error i)
  | .ok (c, cache, notices) =>
    ({ h with cache, clients := h.clients ++ [c] }.note notices, .ok ())

/-- Sends a request. What comes of it is known at once, or the request is held back with a task. -/
def ask (h : Host τ) (i : Nat) (task : Task τ) (request : Outbound) : Host τ × Option Outcome :=
  let (answer, peer) := h.peer.take request
  if answer.held then
    ({ h with peer, held := h.held ++ [{ client := i, task, outcome := answer.outcome }] }, none)
  else ({ h with peer }, some answer.outcome)

/-- Sends a request for which the host itself waits; it does not wait for one that is held back. -/
def askNow (h : Host τ) (request : Outbound) : Host τ × Option Outcome :=
  let (answer, peer) := h.peer.take request
  ({ h with peer }, if answer.held then none else some answer.outcome)

end Host

end BotSentry
