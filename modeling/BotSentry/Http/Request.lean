import BotSentry.Http.Headers
import BotSentry.Net.Address
import BotSentry.Text.Utf8

/-!
# Requests

A request as it reaches the host: its path is percent-decoded, its query is not even known to be text.
The address of the client is the first usable one that a proxy names, or that of the peer.
-/

namespace BotSentry

structure Request where
  /-- Whether it is a request at all, and not some other kind of connection. -/
  isHttp : Bool := true
  method : String := "GET"
  scheme : String := "http"
  path : String := "/"
  query : Bytes := []
  headers : Headers := []
  /-- The host at the other end of the connection. -/
  peer : Option String := none
  /-- The host and the port that the connection was made to. -/
  server : Option (String × Int) := none
  deriving DecidableEq, Inhabited

namespace Request

/-- The fields in which proxies name the client, in order of trust. -/
def proxyFields : List String :=
  ["x-forwarded-for", "x-real-ip", "cf-connecting-ip", "x-client-ip"]

/-- The address that stands for the host itself. -/
def localAddress : List Char := "127.0.0.1".toList

/-- The first item of a list between commas, without blanks around it. -/
def firstItem (value : List Char) : List Char := Text.trim (value.takeWhile (· != ','))

/-- The client that a field names, if that is an address and not the local one. -/
def namedClient? (headers : Headers) (field : String) : Option String :=
  match headers.first? field with
  | none => none
  | some value =>
    let item := firstItem value.toList
    if (Address.ofChars? item).isSome && item != localAddress then some (String.ofList item)
    else none

/-- The address of the client. -/
def clientAddress (r : Request) : String :=
  match proxyFields.findSome? (namedClient? r.headers) with
  | some address => address
  | none => r.peer.getD (String.ofList localAddress)

def userAgent (r : Request) : String := (r.headers.first? "user-agent").getD ""

def referrer? (r : Request) : Option String := r.headers.first? "referer"

end Request

end BotSentry
