import BotSentry.Json.Lenient
import BotSentry.Pattern.Match
import BotSentry.Schema.Number
import BotSentry.Settings.Basic
import BotSentry.Text.Case

/-!
# Reading settings

Settings come from given fields and from variables of the environment, whose names have a common
start and ignore case. A given field wins over a variable; a given field that is none is an issue.
-/

namespace BotSentry

open Schema

namespace Settings

/-- The pattern of keys: letters, digits, underscores and hyphens of ASCII up to the end of a line. -/
def keyPattern : Pattern where
  text := "^[a-zA-Z0-9_-]*$"
  flags := []
  node := .seq (.anchor .lineStart) (.seq
    (.repetition .greedy 0 none (.set false
      [.range 0x61 0x7A, .range 0x41 0x5A, .range 0x30 0x39, .single 0x5F, .single 0x2D]))
    (.anchor .lineEnd))
  groups := 0
  names := []

/-- A key without the blanks around it, if it is one. -/
def key? (cs : List Char) : Option String :=
  let key := Text.trim cs
  if keyPattern.begins key then some (String.ofList key) else none

def keyOf (v : Json) : Checked String :=
  match v with
  | .str t =>
    match t.toChars?.bind key? with
    | some key => .ok key
    | none => .issue .badKey
  | _ => .issue .notString

/-- The shortest and the longest time that a dataset can be in force. -/
def ttlLeast : Int := 300

def ttlMost : Int := 604800

def ofKnown (fields : Fields) : Checked Settings :=
  let initial : Settings := {}
  Settings.mk <$> withDefault initial.apiKey keyOf fields "api_key"
    <*> withDefault initial.debugMode bool fields "debug_mode"
    <*> withDefault initial.autoSync bool fields "auto_sync"
    <*> withDefault initial.patternsEndpoint string fields "patterns_endpoint"
    <*> withDefault initial.cacheTtl (intBetween ttlLeast ttlMost) fields "cache_ttl"
    <*> withDefault initial.syncInterval int fields "sync_interval_seconds"
    <*> withDefault initial.syncTimeout float fields "sync_timeout_seconds"
    <*> withDefault initial.collectorEndpoint string fields "collector_endpoint"
    <*> withDefault initial.collectorTimeout float fields "collector_timeout_seconds"
    <*> withDefault initial.platform string fields "platform_type"
    <*> withDefault initial.queueSize int fields "telemetry_queue_size"
    <*> withDefault initial.workers int fields "telemetry_workers"
    <*> withDefault initial.excludedPaths (items .notList text) fields "exclude_paths"
    <*> withDefault initial.excludedExtensions (items .notList text) fields "exclude_extensions"

/-- The fields, and whether a variable spells their value as a document. -/
def fieldNames : List (String × Bool) :=
  [("api_key", false), ("debug_mode", false), ("auto_sync", false), ("patterns_endpoint", false),
    ("cache_ttl", false), ("sync_interval_seconds", false), ("sync_timeout_seconds", false),
    ("collector_endpoint", false), ("collector_timeout_seconds", false), ("platform_type", false),
    ("telemetry_queue_size", false), ("telemetry_workers", false), ("exclude_paths", true),
    ("exclude_extensions", true)]

/-- One issue for each field that is none. -/
def noOthers : Fields → Checked Unit
  | [] => .ok ()
  | (name, _) :: rest =>
    if fieldNames.any fun (known, _) => name.isString known then noOthers rest
    else (fun _ _ => ()) <$> Checked.under (.field name) (.issue (α := Unit) .extra) <*> noOthers rest

/-- Settings from given fields and, behind them, those of the environment. -/
def ofFields (given environment : Fields) : Checked Settings :=
  (fun settings _ => settings) <$> ofKnown (given ++ environment) <*> noOthers given

/-- Why a variable cannot be read where a document is wanted. -/
inductive VariableFault where
  | noDocument (field : String)
  | tooDeep (message : String)
  deriving DecidableEq, Repr

def VariableFault.message : VariableFault → String
  | .noDocument field =>
    "error parsing value for field \"" ++ field ++ "\" from source \"EnvSettingsSource\""
  | .tooDeep message => message

/-- The start of the names of variables, in lower case. -/
def variableStart : String := "spyglasses_"

/-- The value of a variable; of several spellings of its name the last counts. -/
def variableValue (vars : List (String × String)) (field : String) : Option String :=
  (vars.reverse.find? fun (name, _) => Text.lower name = variableStart ++ field).map (·.2)

/-- The fields that variables give. A document that is null gives none. -/
def fieldsOf (vars : List (String × String)) :
    List (String × Bool) → Except VariableFault Fields
  | [] => .ok []
  | (field, isDocument) :: rest =>
    match variableValue vars field with
    | none => fieldsOf vars rest
    | some value =>
      if isDocument then
        let document := Text.ofString value
        match Json.Lenient.read document with
        | .ok .null => fieldsOf vars rest
        | .ok v => (fieldsOf vars rest).map ((Text.ofString field, v) :: ·)
        | .error (.tooDeep kind) =>
          .error (.tooDeep (Json.Lenient.Failure.message document (.tooDeep kind)))
        | .error _ => .error (.noDocument field)
      else (fieldsOf vars rest).map ((Text.ofString field, .ofString value) :: ·)

/-- Reads settings. -/
def read (given : Fields) (vars : List (String × String)) :
    Except VariableFault (Checked Settings) :=
  (fieldsOf vars fieldNames).map (ofFields given)

end Settings

end BotSentry
