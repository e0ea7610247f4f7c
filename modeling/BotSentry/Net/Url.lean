import BotSentry.Net.Address
import BotSentry.Text.Case
import BotSentry.Text.Quoted

/-!
# URLs

A URL is split into scheme, authority, path, query and fragment. Leading blanks and all tabs and line
breaks are dropped first. Brackets in an authority have to enclose an address, and nothing may stand
beside them but a port: it is not enough that each has its other half. Any other brackets, and
characters that stand for delimiters in a compatible form, make the whole text no URL, so a referrer
such as `http://a[b]c/` or `http://[127.0.0.1]/` has no host (`referrerHost`).
-/

namespace BotSentry

structure Url where
  scheme : List Char
  authority : List Char
  path : List Char
  query : List Char
  fragment : List Char
  deriving DecidableEq, Repr

/-- Why a text is no URL. -/
inductive UrlFault where
  /-- A bracket without its other half, or something else than a port beside brackets. -/
  | brackets
  | futureAddress
  | noAddress (host : List Char)
  | v4InBrackets
  | hiddenDelimiter (authority : List Char)
  deriving DecidableEq, Repr

def UrlFault.message : UrlFault → String
  | .brackets => "Invalid IPv6 URL"
  | .futureAddress => "IPvFuture address is invalid"
  | .noAddress host =>
    String.ofList (Text.quotedChars host) ++ " does not appear to be an IPv4 or IPv6 address"
  | .v4InBrackets => "An IPv4 address cannot be in brackets"
  | .hiddenDelimiter authority =>
    "netloc \x27" ++ String.ofList authority
      ++ "\x27 contains invalid characters under NFKC normalization"

namespace Url

def isSchemeChar (c : Char) : Bool :=
  Text.isAsciiLetter c.toNat || Text.isAsciiDigit c.toNat || c = '+' || c = '-' || c = '.'

/-- Drops control characters and spaces at the start, and tabs and line breaks everywhere. -/
def clean (cs : List Char) : List Char :=
  (cs.dropWhile (·.toNat ≤ 0x20)).filter fun c => c != '\t' && c != '\r' && c != '\n'

/-- The text before the first `sep` and what follows it, if there is one. -/
def cut (sep : Char) (cs : List Char) : List Char × Option (List Char) :=
  let before := cs.takeWhile (· != sep)
  match cs.drop before.length with
  | [] => (before, none)
  | _ :: after => (before, some after)

/-- The scheme, in lower case, and what follows its colon. -/
def splitScheme (cs : List Char) : List Char × List Char :=
  match cut ':' cs, cs with
  | (scheme, some after), first :: _ =>
    if Text.isAsciiLetter first.toNat && scheme.all isSchemeChar then
      (scheme.map Char.toLower, after)
    else ([], cs)
  | _, _ => ([], cs)

def endsAuthority (c : Char) : Bool := c = '/' || c = '?' || c = '#'

/-- The authority, after two slashes. -/
def splitAuthority : List Char → List Char × List Char
  | '/' :: '/' :: rest => (rest.takeWhile (!endsAuthority ·), rest.dropWhile (!endsAuthority ·))
  | cs => ([], cs)

/-- What follows the last `@`. -/
def afterAt (authority : List Char) : List Char :=
  (authority.reverse.takeWhile (· != '@')).reverse

/-- Why the inside of brackets is neither an IPv6 address nor one of a future version. -/
def bracketedFault? (host : List Char) : Option UrlFault :=
  match host with
  | 'v' :: rest =>
    let (digits, after) := cut '.' rest
    if !digits.isEmpty && digits.all Address.isHex
        && after.any (fun a => !a.isEmpty && !a.contains '\n') then none
    else some .futureAddress
  | _ =>
    match Address.ofChars? host with
    | some (.v6 ..) => none
    | some (.v4 _) => some .v4InBrackets
    | none => some (.noAddress host)

/-- Why brackets, if there are any, do not enclose an address or do not stand alone before the
port. -/
def bracketFault? (authority : List Char) : Option UrlFault :=
  match authority.contains '[', authority.contains ']' with
  | false, false => none
  | true, true =>
    let host := afterAt authority
    match cut '[' host with
    | (before, some bracketed) =>
      let (inside, after) := cut ']' bracketed
      let port := after.getD []
      if before.isEmpty && (port.isEmpty || port.head? = some ':') then bracketedFault? inside
      else some .brackets
    | (_, none) => bracketedFault? (cut ':' host).1
  | _, _ => some .brackets

/-- Characters whose compatible form holds a delimiter. -/
def hidesDelimiter (c : Char) : Bool :=
  [0x2047, 0x2048, 0x2049, 0x2100, 0x2101, 0x2105, 0x2106, 0x2A74, 0xFE13, 0xFE16, 0xFE55, 0xFE56,
    0xFE5F, 0xFE6B, 0xFF03, 0xFF0F, 0xFF1A, 0xFF1F, 0xFF20].contains c.toNat

/-- Why an authority makes a text no URL. -/
def authorityFault? (authority : List Char) : Option UrlFault :=
  match bracketFault? authority with
  | some fault => some fault
  | none => if authority.any hidesDelimiter then some (.hiddenDelimiter authority) else none

/-- Splits a URL; a malformed authority is refused. -/
def split (cs : List Char) : Except UrlFault Url :=
  let (scheme, rest) := splitScheme (clean cs)
  let (authority, rest) := splitAuthority rest
  match authorityFault? authority with
  | some fault => .error fault
  | none =>
    let (rest, fragment) := cut '#' rest
    let (path, query) := cut '?' rest
    .ok { scheme, authority, path, query := query.getD [], fragment := fragment.getD [] }

/-- The host of a URL without brackets and port, in lower case up to a zone. -/
def host (url : Url) : List Char :=
  let hostAndPort := afterAt url.authority
  let h := match cut '[' hostAndPort with
    | (_, some bracketed) => (cut ']' bracketed).1
    | (_, none) => (cut ':' hostAndPort).1
  let name := h.takeWhile (· != '%')
  Text.lowerChars name ++ h.drop name.length

end Url

/-- The host of a referrer in lower case, or the whole referrer where it has none. -/
def referrerHost (referrer : String) : String :=
  match Url.split referrer.toList with
  | .ok url =>
    if url.host.isEmpty then Text.lower referrer else String.ofList (Text.lowerChars url.host)
  | .error _ => Text.lower referrer

end BotSentry
