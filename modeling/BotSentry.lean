import BotSentry.Text.CodePoint
import BotSentry.Text.Case
import BotSentry.Pattern.Fault
import BotSentry.Pattern.Token
import BotSentry.Pattern.Escape
import BotSentry.Pattern.Reader
import BotSentry.Pattern.Compiled
import BotSentry.Pattern.CharTest
import BotSentry.Pattern.Match
import BotSentry.Text.Encoding
import BotSentry.Decimal.Reading
import BotSentry.Decimal.Shortest
import BotSentry.Json.Basic
import BotSentry.Json.Lenient
import BotSentry.Json.Writer
import BotSentry.Json.Strict
import BotSentry.Time.Calendar
import BotSentry.Time.DateTime
import BotSentry.Time.Scale
import BotSentry.Time.Reading
import BotSentry.Dataset.Basic
import BotSentry.Dataset.Bootstrap
import BotSentry.Dataset.Document
import BotSentry.Dataset.Validation
import BotSentry.Policy
import BotSentry.Net.Address
import BotSentry.Net.Url
import BotSentry.Detection.Engine
import BotSentry.Sync.Payload
import BotSentry.Schema.Number
import BotSentry.Settings.Basic
import BotSentry.Settings.Reading
import BotSentry.Guard.Exclusion
import BotSentry.Http.Headers
import BotSentry.Http.Location
import BotSentry.Http.Reason
import BotSentry.Http.Response
import BotSentry.Store.Cache
import BotSentry.Store.Repository
import BotSentry.Telemetry.Event
import BotSentry.Interruption
import BotSentry.Sync.Receipt
import BotSentry.Telemetry.Reporter
import BotSentry.Client
import BotSentry.Host.Basic
import BotSentry.Host.Sync
import BotSentry.Host.Admin
import BotSentry.Host.Action
import BotSentry.Proofs.Serving
import BotSentry.Proofs.SyncCalls
import BotSentry.Proofs.Reference
import BotSentry.Proofs.Memo
import BotSentry.Proofs.Steps
import BotSentry.Proofs.Clients
import BotSentry.Proofs.Detections
import BotSentry.Proofs.SyncEnds
import BotSentry.Proofs.Storage
import BotSentry.Proofs.Alike
import BotSentry.Proofs.Commit
import BotSentry.Proofs.Sending
import BotSentry.Proofs.SingleFlight
import BotSentry.Proofs.Ledger
import BotSentry.Proofs.Conservation
import BotSentry.Proofs.Workers
import BotSentry.Proofs.Utf8
import BotSentry.Proofs.Digits
import BotSentry.Proofs.Documents
import BotSentry.Proofs.Calendar
import BotSentry.Proofs.DateTimes
import BotSentry.Proofs.DatasetDocuments
import BotSentry.Proofs.Persistence
import BotSentry.Proofs.Authorities
import BotSentry.Proofs.Locations
import BotSentry.Proofs.Startup
import BotSentry.Proofs.Authorisation
import BotSentry.Proofs.Pacing
import BotSentry.Proofs.Freshness
import BotSentry.Proofs.Dependence
import BotSentry.Proofs.Provenance
import BotSentry.Proofs.Keyless
import BotSentry.Proofs.JudgedPaths
import BotSentry.Proofs.Variance
import BotSentry.Proofs.SyncOutcomes
import BotSentry.Proofs.Draining
import BotSentry.Proofs.Secrecy
import BotSentry.Proofs.Scopes
import BotSentry.Proofs.Checks
import BotSentry.Proofs.Grammar
import BotSentry.Proofs.ClientAddress
import BotSentry.Proofs.Spellings
import BotSentry.Proofs.Absence
import BotSentry.Proofs.Referrers
import BotSentry.Proofs.Literals
import BotSentry.Proofs.Expiry
import BotSentry.Proofs.Exclusions
import BotSentry.Proofs.Warnings
import BotSentry.Proofs.Stamps
import BotSentry.Proofs.Grouping
import BotSentry.Proofs.Keys
import BotSentry.Proofs.Times
import BotSentry.Proofs.Status
