import BotSentry.Interruption
import BotSentry.Json.Lenient
import BotSentry.Sync.Payload

/-!
# The end of a synchronisation

A synchronisation that has begun ends with a dataset or an error, according to how its request ended;
some faults interrupt it instead.
-/

namespace BotSentry

inductive SyncError where
  | noKey
  | inProgress
  | timedOut (message : String)
  | unreachable (message : String)
  | status (code : Nat)
  | notJson (message : String)
  | payload (fault : PayloadFault)

namespace SyncError

def message : SyncError → String
  | noKey => "No API key set for pattern sync"
  | inProgress => "Pattern sync already in progress"
  | timedOut message => "Pattern sync timed out: " ++ message
  | unreachable message => "Cannot reach patterns endpoint: " ++ message
  | status code =>
    let reason := Http.reason code
    "Pattern sync HTTP error " ++ toString code ++ (if reason.isEmpty then "" else ": " ++ reason)
  | notJson message => "Pattern response is not valid JSON: " ++ message
  | payload fault => fault.message

/-- The class of an error. -/
def kind : SyncError → String
  | noKey => "ConfigurationError"
  | inProgress => "SyncInProgressError"
  | timedOut _ | unreachable _ => "NetworkError"
  | status _ => "HttpError"
  | notJson _ | payload _ => "MalformedResponse"

end SyncError

/-- A dataset, or why there is none. -/
abbrev SyncResult := Except SyncError Dataset

/-- The dataset in the body of a response that came at some time. -/
def Dataset.ofBody (body : Bytes) (now : Except TimeFault DateTime) :
    Except Interruption SyncResult :=
  match Json.ofDocument body with
  | .error fault =>
    if fault.isTooDeep then .error (.tooDeep fault.message)
    else .ok (.error (.notJson fault.message))
  | .ok v =>
    match now with
    | .error fault => .error (.time fault)
    | .ok now => .ok ((Dataset.ofPayload v now).mapError .payload)

/-- What comes of the request for the patterns. -/
def Outcome.receive (outcome : Outcome) (now : Except TimeFault DateTime) :
    Except Interruption SyncResult :=
  match outcome with
  | .response status body =>
    if Http.isSuccess status then Dataset.ofBody body now else .ok (.error (.status status))
  | .fault f =>
    match f.kind with
    | .timeout => .ok (.error (.timedOut f.message))
    | .request => .ok (.error (.unreachable f.message))
    | .transfer | .foreign => .error (.transfer f)

end BotSentry
