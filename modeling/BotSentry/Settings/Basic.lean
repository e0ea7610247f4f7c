import BotSentry.Text.CodePoint

/-!
# Settings

What a host can adjust. The built-in paths and extensions are those of pages and files that need no
detection.
-/

namespace BotSentry

structure Settings where
  apiKey : String := ""
  debugMode : Bool := false
  autoSync : Bool := true
  patternsEndpoint : String := "https://www.spyglasses.io/api/patterns"
  /-- How long a dataset is in force, in seconds. -/
  cacheTtl : Int := 86400
  syncInterval : Int := 3600
  syncTimeout : Float := 30.0
  collectorEndpoint : String := "https://www.spyglasses.io/api/collect"
  collectorTimeout : Float := 10.0
  platform : String := "python"
  queueSize : Int := 1000
  workers : Int := 2
  excludedPaths : List Text :=
    ["/admin", "/batch", "/cron", "/core", "/modules", "/themes", "/static", "/system/files"].map
      Text.ofString
  excludedExtensions : List Text :=
    ["css", "js", "png", "jpg", "jpeg", "gif", "svg", "ico", "woff", "woff2", "ttf", "eot", "pdf",
      "zip", "tar", "gz", "xml", "txt", "json"].map Text.ofString
  deriving Inhabited

/-- Without a key there is no detection and no traffic to the service. -/
def Settings.isConfigured (s : Settings) : Bool := !s.apiKey.isEmpty

end BotSentry
