import BotSentry.Http.Reason
import BotSentry.Json.Basic
import BotSentry.Text.Utf8

/-!
# Requests to the service

A request that a client sends ends with a response or with a fault. Faults of the transfer itself are
expected; those of any other kind are not.
-/

namespace BotSentry

inductive TransferKind where
  /-- It took too long. -/
  | timeout
  /-- The request could not be completed. -/
  | request
  /-- Any other fault of the transfer. -/
  | transfer
  /-- A fault that has nothing to do with the transfer. -/
  | foreign
  deriving DecidableEq, Repr

/-- The faults that the transport defines. -/
inductive FaultClass where
  | httpError
  | requestError
  | transportError
  | timeoutException
  | connectTimeout
  | readTimeout
  | writeTimeout
  | poolTimeout
  | networkError
  | connectError
  | readError
  | writeError
  | closeError
  | proxyError
  | unsupportedProtocol
  | protocolError
  | localProtocolError
  | remoteProtocolError
  | decodingError
  | tooManyRedirects
  | httpStatusError
  | invalidUrl
  | cookieConflict
  | streamError
  | streamConsumed
  | streamClosed
  | responseNotRead
  | requestNotRead
  deriving DecidableEq, Repr

namespace FaultClass

def all : List FaultClass := [
  httpError, requestError, transportError, timeoutException, connectTimeout, readTimeout,
  writeTimeout, poolTimeout, networkError, connectError, readError, writeError, closeError,
  proxyError, unsupportedProtocol, protocolError, localProtocolError, remoteProtocolError,
  decodingError, tooManyRedirects, httpStatusError, invalidUrl, cookieConflict, streamError,
  streamConsumed, streamClosed, responseNotRead, requestNotRead]

def name : FaultClass → String
  | httpError => "HTTPError"
  | requestError => "RequestError"
  | transportError => "TransportError"
  | timeoutException => "TimeoutException"
  | connectTimeout => "ConnectTimeout"
  | readTimeout => "ReadTimeout"
  | writeTimeout => "WriteTimeout"
  | poolTimeout => "PoolTimeout"
  | networkError => "NetworkError"
  | connectError => "ConnectError"
  | readError => "ReadError"
  | writeError => "WriteError"
  | closeError => "CloseError"
  | proxyError => "ProxyError"
  | unsupportedProtocol => "UnsupportedProtocol"
  | protocolError => "ProtocolError"
  | localProtocolError => "LocalProtocolError"
  | remoteProtocolError => "RemoteProtocolError"
  | decodingError => "DecodingError"
  | tooManyRedirects => "TooManyRedirects"
  | httpStatusError => "HTTPStatusError"
  | invalidUrl => "InvalidURL"
  | cookieConflict => "CookieConflict"
  | streamError => "StreamError"
  | streamConsumed => "StreamConsumed"
  | streamClosed => "StreamClosed"
  | responseNotRead => "ResponseNotRead"
  | requestNotRead => "RequestNotRead"

/-- The class that a class is a case of. -/
def parent? : FaultClass → Option FaultClass
  | httpError | invalidUrl | cookieConflict | streamError => none
  | requestError | httpStatusError => some httpError
  | transportError | decodingError | tooManyRedirects => some requestError
  | timeoutException | networkError | proxyError | unsupportedProtocol | protocolError =>
    some transportError
  | connectTimeout | readTimeout | writeTimeout | poolTimeout => some timeoutException
  | connectError | readError | writeError | closeError => some networkError
  | localProtocolError | remoteProtocolError => some protocolError
  | streamConsumed | streamClosed | responseNotRead | requestNotRead => some streamError

/-- A class and the classes above it, at most `n` of them. -/
def lineage : Nat → FaultClass → List FaultClass
  | 0, _ => []
  | n + 1, c => c :: ((parent? c).map (lineage n)).getD []

/-- Whether a class is another one or a case of it. -/
def isA (c d : FaultClass) : Bool := (lineage all.length c).contains d

def kind (c : FaultClass) : TransferKind :=
  if c.isA timeoutException then .timeout
  else if c.isA requestError then .request
  else if c.isA httpError then .transfer
  else .foreign

end FaultClass

/-- The kind of a fault by its name; one that the transport does not define is foreign. -/
def TransferKind.ofName (name : String) : TransferKind :=
  ((FaultClass.all.find? (·.name == name)).map (·.kind)).getD .foreign

/-- A fault, with the name that the transport has for it. -/
structure TransferFault where
  kind : TransferKind
  name : String
  message : String
  deriving DecidableEq, Repr

def TransferFault.ofClass (c : FaultClass) (message : String) : TransferFault where
  kind := c.kind
  name := c.name
  message

/-- How a request ends. -/
inductive Outcome where
  | response (status : Nat) (body : Bytes)
  | fault (fault : TransferFault)
  deriving DecidableEq

inductive Outbound.Method where
  | get
  | post
  deriving DecidableEq, Repr

/-- A request that a client sends, with the key of the client and the seconds that it waits. -/
structure Outbound where
  method : Outbound.Method
  url : String
  key : String
  timeout : Float
  body : Option Json := none

namespace Outbound

/-- Fetches the patterns. -/
def isGet (r : Outbound) : Bool := r.method = .get

end Outbound

/-- What the service is going to do with a request: how it ends, and whether that is held back. -/
structure Answer where
  outcome : Outcome
  held : Bool := false
  deriving DecidableEq

/-- The service: its next answers, and the requests that it has seen, oldest first. -/
structure Peer where
  answers : List Answer := []
  seen : List Outbound := []
  /-- While answers are let go, none is held back. -/
  letsGo : Bool := false

namespace Peer

/-- An empty response, where nothing else is prepared. -/
def silence : Answer where
  outcome := .response 200 []

/-- Takes a request; the answer is the next one. -/
def take (p : Peer) (request : Outbound) : Answer × Peer :=
  match p.answers with
  | [] => (silence, { p with seen := p.seen ++ [request] })
  | answer :: rest =>
    ({ answer with held := answer.held && !p.letsGo },
      { p with answers := rest, seen := p.seen ++ [request] })

end Peer

end BotSentry
