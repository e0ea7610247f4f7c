import BotSentry.Http.Headers
import BotSentry.Json.Writer

/-!
# Responses

A status, header fields and a body.
-/

namespace BotSentry

structure Response where
  status : Nat
  headers : Headers := []
  body : Bytes := []
  deriving DecidableEq, Inhabited

namespace Response

/-- A response with a body of a type, behind other header fields. -/
def ofBody (status : Nat) (headers : Headers) (type : String) (body : Bytes) : Response where
  status
  headers := headers ++ [("content-length", toString body.length), ("content-type", type)]
  body

def plain (status : Nat) (headers : Headers) (text : String) : Response :=
  ofBody status headers "text/plain; charset=utf-8" (Text.Utf8.encode text)

/-- A document as a response; a lone surrogate in it cannot be sent. -/
def json (status : Nat) (headers : Headers) (v : Json) : Except Text.EncodeFault Response :=
  (Text.encode (v.write false)).map (ofBody status headers "application/json")

/-- A document with a single explanation. -/
def detail (status : Nat) (headers : Headers) (text : String) : Except Text.EncodeFault Response :=
  json status headers (.mkObj [("detail", .ofString text)])

/-- The answer to a blocked request, which no cache may keep for other clients. -/
def denied : Response :=
  plain 403 [("cache-control", "private, no-store, max-age=0"), (Headers.vary, Headers.userAgent)]
    "Access Denied"

/-- The answer to a request that could not be dealt with. -/
def failed : Response := plain 500 [] "Internal Server Error"

end Response

end BotSentry
