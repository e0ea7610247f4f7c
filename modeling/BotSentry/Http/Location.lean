import BotSentry.Http.Request
import BotSentry.Net.Url
import BotSentry.Text.Quoted

/-!
# The URL of a request

A request does not hold its URL. It is put together from the host that the request names, or else from
the server of the connection, and its path and query are then read back from the whole.
-/

namespace BotSentry

/-- The URL of a request, and the path and query that are read back from it. -/
structure Location where
  text : List Char
  path : List Char
  query : List Char
  deriving DecidableEq, Repr

/-- Why a request has no URL. -/
inductive LocationFault where
  | query (fault : Text.DecodeFault)
  | url (fault : UrlFault)

def LocationFault.message : LocationFault → String
  | .query fault => fault.message
  | .url fault => fault.message

namespace Location

/-- Writes delimiters of the URL inside a path as escapes. -/
def escapePath (cs : List Char) : List Char :=
  cs.flatMap fun c =>
    if c = '?' then "%3F".toList else if c = '#' then "%23".toList
    else if c = '\x5c' then "%5C".toList else [c]

def isHostMark (c : Char) : Bool := "!$&\x27()*+,;=._~-".toList.contains c

def isLetterOrDigit (c : Char) : Bool := Text.isAsciiLetter c.toNat || Text.isAsciiDigit c.toNat

def isHostChar (c : Char) : Bool := isLetterOrDigit c || isHostMark c || c = '%'

/-- Nothing, or a colon and a port. -/
def isPort : List Char → Bool
  | [] => true
  | c :: ds =>
    c = ':' && !ds.isEmpty && ds.all Char.isDigit
      && Address.digitsValue 10 (fun d => d.toNat - 0x30) ds ≤ 65535

/-- The inside of brackets: an IPv6 address, or one of a future version, which begins with a small
letter. -/
def isBracketed (cs : List Char) : Bool :=
  match cs with
  | c :: rest =>
    if c = 'v' then
      match Url.cut '.' rest with
      | (digits, some after) =>
        !digits.isEmpty && digits.all Address.isHex && !after.isEmpty
          && after.all fun a => isLetterOrDigit a || isHostMark a || a = ':'
      | _ => false
    else cs.all (fun a => Address.isHex a || a = ':' || a = '.') && (Address.v6? cs).isSome
  | [] => false

/-- Drops a line break at the end. -/
def dropBreak (cs : List Char) : List Char :=
  if cs.getLast? = some '\n' then cs.dropLast else cs

/-- Whether a request may name this host. -/
def isHost (cs : List Char) : Bool :=
  match dropBreak cs with
  | '[' :: rest =>
    match Url.cut ']' rest with
    | (inside, some port) => isBracketed inside && isPort port
    | _ => false
  | host =>
    let name := host.takeWhile isHostChar
    !name.isEmpty && isPort (host.drop name.length)

/-- The port that a scheme implies. -/
def defaultPort? (scheme : String) : Option Int :=
  [("http", 80), ("https", 443), ("ws", 80), ("wss", 443)].lookup scheme

/-- A host name or an address as the authority of a URL. -/
def bracketed (host : List Char) : List Char :=
  if host.contains ':' && host.head? != some '[' then '[' :: host ++ [']'] else host

/-- The server of the connection as an authority. -/
def serverAuthority (scheme host : String) (port : Int) : List Char :=
  let name := bracketed host.toList
  if defaultPort? scheme = some port then name else name ++ ':' :: (toString port).toList

/-- The authority of a request's URL. -/
def authority? (r : Request) : Option (List Char) :=
  match (r.headers.first? "host").map String.toList with
  | some host => if isHost host then some host else fromServer
  | none => fromServer
where
  fromServer : Option (List Char) := r.server.map fun (host, port) => serverAuthority r.scheme host port

/-- The URL without its query. -/
def base (r : Request) : List Char :=
  let path := escapePath r.path.toList
  match authority? r with
  | some authority => r.scheme.toList ++ "://".toList ++ authority ++ path
  | none =>
    match path with
    | '/' :: '/' :: rest => "/%2F".toList ++ rest
    | _ => path

/-- The whole text of a request's URL. -/
def textOf (r : Request) : Except LocationFault (List Char) :=
  if r.query.isEmpty then .ok (base r)
  else match Text.Utf8.decode false r.query with
    | .ok query => .ok (base r ++ '?' :: query.filterMap (·.char?))
    | .error fault => .error (.query fault)

/-- The URL of a request. -/
def ofRequest (r : Request) : Except LocationFault Location :=
  match textOf r with
  | .error fault => .error fault
  | .ok text =>
    match Url.split text with
    | .ok url => .ok { text, path := url.path, query := url.query }
    | .error fault => .error (.url fault)

/-- Characters that stay as they are in a URL to go to. -/
def isPlain (c : Char) : Bool :=
  isLetterOrDigit c || "_.-~:/%#?=@[]!$&\x27()*+,;".toList.contains c

/-- A text as a URL to go to: all other characters are escaped byte by byte. -/
def quoted (cs : List Char) : List Char :=
  cs.flatMap fun c =>
    if isPlain c then [c]
    else (Text.Utf8.encodeChar c).flatMap fun b =>
      '%' :: (Text.hexDigits 2 b.toNat).map Char.toUpper

end Location

end BotSentry
