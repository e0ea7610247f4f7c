import BotSentry.Text.Case
import BotSentry.Text.CodePoint

/-!
# Header fields

A list of names and values in the order of arrival. Names of requests are in lower case. Fields of one
name can be grouped, their values joined by commas.
-/

namespace BotSentry

abbrev Headers := List (String × String)

namespace Headers

/-- The value of the first field of a name. -/
def first? (headers : Headers) (name : String) : Option String := headers.lookup name

/-- Appends a value to the field of its name, in the place of the first one. -/
def join (name value : String) : Headers → Headers
  | [] => [(name, value)]
  | (n, v) :: rest =>
    if n = name then (n, v ++ ", " ++ value) :: rest else (n, v) :: join name value rest

/-- One field for each name, in the order of first arrival. -/
def grouped (headers : Headers) : Headers :=
  headers.foldl (fun groups (name, value) => join name value groups) []

/-- Puts a value into the first field of a name and drops the others, or adds a field. -/
def put (name value : String) : Headers → Headers
  | [] => [(name, value)]
  | (n, v) :: rest =>
    if n = name then (n, value) :: rest.filter (·.1 != name) else (n, v) :: put name value rest

/-- The field that names what a response depends on. -/
def vary : String := "vary"

def userAgent : String := "User-Agent"

/-- Says that the response depends on the user agent, unless its first field says so already. -/
def addVary (headers : Headers) : Headers :=
  let existing := (headers.first? vary).getD ""
  if existing.isEmpty then headers.put vary userAgent
  else if Text.occursIn (Text.ofString "user-agent") (Text.ofString (Text.lower existing)) then
    headers
  else headers.put vary (existing ++ ", " ++ userAgent)

end Headers

end BotSentry
