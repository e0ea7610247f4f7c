import BotSentry.Json.Basic

/-!
# Notices

What the library reports about its own work: each notice has a level, a name, and the values that
belong to it. What it tells only for debugging is left out; none of that holds a key.
-/

namespace BotSentry

inductive Level where
  | info
  | warning
  | error
  deriving DecidableEq, Repr

def Level.name : Level → String
  | .info => "info"
  | .warning => "warning"
  | .error => "error"

inductive Notice where
  /-- A bot pattern was skipped. -/
  | badPattern (pattern : String) (reason : String)
  | badCache (issues : Nat)
  | cacheWriteFailed (error : String)
  | syncStarting (endpoint : String)
  | syncCompleted (version : Text) (patterns referrers : Nat)
  | syncFailed (error kind : String)
  | manualSyncCompleted (patterns : Nat)
  | manualSyncFailed (error : String)
  | syncTickFailed (error : String)
  | queueFull (source : String) (dropped : Nat)
  | drainTimeout (pending : Nat)
  | sendFailed (endpoint error : String)
  | sendRejected (endpoint : String) (status : Nat) (reason : String)
  | requestBlocked (source : String) (pattern : Option Text) (path ip : String)
  | hostStarting (configured autoSync : Bool)
  | started (configured : Bool) (version : Text) (patterns : Nat)
  | hostStopping
  deriving DecidableEq

namespace Notice

def level : Notice → Level
  | badPattern .. | badCache .. | cacheWriteFailed .. | queueFull .. | drainTimeout ..
  | sendFailed .. | sendRejected .. => .warning
  | syncFailed .. | manualSyncFailed .. | syncTickFailed .. => .error
  | _ => .info

def name : Notice → String
  | badPattern .. => "bot_pattern_invalid"
  | badCache .. => "cached_patterns_invalid"
  | cacheWriteFailed .. => "patterns_cache_write_failed"
  | syncStarting .. => "pattern_sync_starting"
  | syncCompleted .. => "pattern_sync_completed"
  | syncFailed .. => "pattern_sync_failed"
  | manualSyncCompleted .. => "manual_pattern_sync_completed"
  | manualSyncFailed .. => "manual_pattern_sync_failed"
  | syncTickFailed .. => "pattern_sync_tick_failed"
  | queueFull .. => "telemetry_queue_full"
  | drainTimeout .. => "telemetry_drain_timeout"
  | sendFailed .. => "telemetry_send_failed"
  | sendRejected .. => "telemetry_rejected"
  | requestBlocked .. => "request_blocked"
  | hostStarting .. => "spyglasses_starting"
  | started .. => "spyglasses_started"
  | hostStopping => "spyglasses_shutting_down"

/-- The values of a notice, by name. -/
def values : Notice → List (String × Json)
  | badPattern pattern reason => [("pattern", .ofString pattern), ("reason", .ofString reason)]
  | badCache issues => [("error_count", .int issues)]
  | cacheWriteFailed error => [("error", .ofString error)]
  | syncStarting endpoint => [("endpoint", .ofString endpoint)]
  | syncCompleted version patterns referrers =>
    [("version", .str version), ("patterns", .int patterns), ("ai_referrers", .int referrers)]
  | syncFailed error kind => [("error", .ofString error), ("error_type", .ofString kind)]
  | manualSyncCompleted patterns => [("patterns", .int patterns)]
  | manualSyncFailed error => [("error", .ofString error)]
  | syncTickFailed error => [("error", .ofString error)]
  | queueFull source dropped => [("source_type", .ofString source), ("dropped", .int dropped)]
  | drainTimeout pending => [("pending", .int pending)]
  | sendFailed endpoint error => [("endpoint", .ofString endpoint), ("error", .ofString error)]
  | sendRejected endpoint status reason =>
    [("endpoint", .ofString endpoint), ("status", .int status), ("reason", .ofString reason)]
  | requestBlocked source pattern path ip =>
    [("source_type", .ofString source), ("pattern", (pattern.map Json.str).getD .null),
      ("path", .ofString path), ("ip", .ofString ip)]
  | hostStarting configured autoSync =>
    [("configured", .bool configured), ("auto_sync", .bool autoSync)]
  | started configured version patterns =>
    [("configured", .bool configured), ("version", .str version), ("patterns", .int patterns)]
  | hostStopping => []

end Notice

end BotSentry
