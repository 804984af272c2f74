import CredentialCache.Time.Instant
import CredentialCache.Time.Clock
import CredentialCache.Time.Calendar
import CredentialCache.Error
import CredentialCache.Event
import CredentialCache.Zone
import CredentialCache.Random
import CredentialCache.Uuid
import CredentialCache.Number.Binary64
import CredentialCache.Text.Blank
import CredentialCache.Text.Unicode
import CredentialCache.Text.Quote
import CredentialCache.Store.Gate
import CredentialCache.Store.Entry
import CredentialCache.Store.Basic
import CredentialCache.Code.Generator
import CredentialCache.Code.Cache
import CredentialCache.Token.Basic
import CredentialCache.Token.Cache
import CredentialCache.Toml.Basic
import CredentialCache.Toml.Document
import CredentialCache.Toml.Read
import CredentialCache.Config.Basic
import CredentialCache.Config.Layer
import CredentialCache.Config.Environment
import CredentialCache.Config.Read
import CredentialCache.Config.Load
import CredentialCache.Config.EnvFile
import CredentialCache.Stores
import CredentialCache.Telemetry.Counters
import CredentialCache.Telemetry.Log
import CredentialCache.Telemetry.Pattern
import CredentialCache.Telemetry.Filter
import CredentialCache.Telemetry.EventLog
import CredentialCache.Telemetry.Logger
import CredentialCache.Demo
import CredentialCache.Main
import CredentialCache.Proofs.Run
import CredentialCache.Proofs.Gate
import CredentialCache.Proofs.Store.Removal
import CredentialCache.Proofs.Store.Step
import CredentialCache.Proofs.Store.Calls
import CredentialCache.Proofs.Store.Throttle
import CredentialCache.Proofs.Store.LiveView
import CredentialCache.Proofs.Store.Frame
import CredentialCache.Proofs.Code.Calls
import CredentialCache.Proofs.Code.SingleUse
import CredentialCache.Proofs.Code.Lifetime
import CredentialCache.Proofs.Code.Attempts
import CredentialCache.Proofs.Store.Staleness
import CredentialCache.Proofs.Token.Calls
import CredentialCache.Proofs.WellFormed
import CredentialCache.Proofs.Token.Lifecycle
import CredentialCache.Proofs.Telemetry.Shared
import CredentialCache.Proofs.Store.FailedWrites
import CredentialCache.Proofs.Code.Retry
import CredentialCache.Proofs.Token.Scans
import CredentialCache.Proofs.Store.KeyedCalls
import CredentialCache.Proofs.Store.PutLookup
import CredentialCache.Proofs.Settings
