import BotSentry.Detection.Result
import BotSentry.Http.Headers
import BotSentry.Time.DateTime

/-!
# Events

What the collector is told about one detected request: the facts that the host knows about it, and
what was detected.
-/

namespace BotSentry

/-- What a host knows about one request. A text may be missing. -/
structure Visit where
  url : Option String := some ""
  userAgent : Option String := some ""
  address : Option String := some ""
  method : String := "GET"
  path : String := "/"
  query : Option String := some ""
  referrer : Option String := none
  /-- The status of the answer, if it is known already. -/
  status : Option Int := none
  /-- How long the answer took, in milliseconds, if that is known. -/
  elapsed : Option Int := some 0
  headers : Headers := []
  deriving DecidableEq, Inhabited

structure Event where
  visit : Visit
  detection : Detection
  status : Int
  timestamp : List Char
  platform : String
  deriving DecidableEq, Inhabited

namespace Event

/-- The status of an answer that is not known: blocked requests are denied. -/
def statusOf (visit : Visit) (detection : Detection) : Int :=
  visit.status.getD (if detection.blocked then 403 else 200)

/-- The event of a visit at some time. -/
def ofVisit (detection : Detection) (visit : Visit) (platform : String) (now : DateTime) :
    Except TimeFault Event :=
  now.stampChars.map fun timestamp =>
    { visit, detection, status := statusOf visit detection, timestamp, platform }

/-- How sure a match of a bot pattern is. -/
def confidence : Float := 0.9

def metadata (d : Detection) : Json :=
  .mkObj (("was_blocked", .bool d.blocked) ::
    match d with
    | .none => []
    | .bot b _ _ => [
      ("agent_type", .str b.kind),
      ("agent_category", .str b.category),
      ("agent_subcategory", .str b.subcategory),
      ("company", .ofOption b.company),
      ("is_compliant", .bool b.isCompliant),
      ("intent", .str b.intent),
      ("confidence", .float confidence),
      ("detection_method", .ofString "pattern_match")]
    | .referrer r _ => [
      ("source_type", .ofString SourceKind.referrer.name),
      ("referrer_id", .str r.id),
      ("referrer_name", .str r.name),
      ("company", .ofOption r.company)])

def ofText (t : Option String) : Json := .ofOption (t.map Text.ofString)

def orElse (s default : String) : Json := .ofString (if s.isEmpty then default else s)

/-- The document of an event, with its header fields as `headers`. -/
def document (e : Event) (headers : Json) : Json := .mkObj [
  ("url", ofText e.visit.url),
  ("user_agent", ofText e.visit.userAgent),
  ("ip_address", ofText e.visit.address),
  ("request_method", orElse e.visit.method "GET"),
  ("request_path", orElse e.visit.path "/"),
  ("request_query", ofText e.visit.query),
  ("request_body", .ofString ""),
  ("referrer", ofText e.visit.referrer),
  ("response_status", .int e.status),
  ("response_time_ms", (e.visit.elapsed.map Json.int).getD .null),
  ("headers", headers),
  ("timestamp", .str (Text.ofChars e.timestamp)),
  ("platform_type", .ofString e.platform),
  ("metadata", metadata e.detection)]

/-- The document that is sent. -/
def toJson (e : Event) : Json :=
  e.document (.mkObj (e.visit.headers.map fun (name, value) => (name, .ofString value)))

end Event

end BotSentry
