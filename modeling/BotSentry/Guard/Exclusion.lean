import BotSentry.Settings.Basic
import BotSentry.Text.Case

/-!
# Excluded requests

Requests below certain paths, and those for files of certain kinds, are not looked at. The extension
of a path is what follows the last point of its last segment, provided that something other than
points precedes it.
-/

namespace BotSentry

namespace Path

def lastSegment (path : List Char) : List Char := (path.reverse.takeWhile (· != '/')).reverse

/-- The extension, without its point; empty if there is none. -/
def extension (path : List Char) : List Char :=
  let segment := lastSegment path
  let reversed := segment.reverse.takeWhile (· != '.')
  let stem := segment.reverse.drop (reversed.length + 1)
  if stem.any (· != '.') then reversed.reverse else []

end Path

namespace Settings

/-- An extension as it is compared: in lower case, without points before it. -/
def plainExtension (ext : Text) : Option (List Char) :=
  ext.toChars?.map fun cs => (Text.lowerChars cs).dropWhile (· = '.')

def excludesExtension (s : Settings) (ext : List Char) : Bool :=
  !ext.isEmpty && s.excludedExtensions.any fun e => plainExtension e = some (Text.lowerChars ext)

/-- Whether requests for a path are not looked at. -/
def excludes (s : Settings) (path : List Char) : Bool :=
  s.excludedPaths.any (fun start => start.isPrefixOf (Text.ofChars path))
    || s.excludesExtension (Path.extension path)

end Settings

end BotSentry
