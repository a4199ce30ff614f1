import RouteWatch.Text.Blank
import RouteWatch.Text.ByteOrder
import RouteWatch.Interest
import RouteWatch.Keyed
import RouteWatch.Service.Error
import RouteWatch.Service.Registry
import RouteWatch.Service.Basic
import RouteWatch.Hub
import RouteWatch.Schedule.Tick
import RouteWatch.Schedule.Table
import RouteWatch.System.Basic
import RouteWatch.System.Tasks
import RouteWatch.System.Control
import RouteWatch.Text.Duration
import RouteWatch.Scenario
import RouteWatch.Wire.Quote
import RouteWatch.Health
import RouteWatch.Settings
import RouteWatch.Number.Binary
import RouteWatch.Number.Shortest
import RouteWatch.Text.Debug
import RouteWatch.Time.Rfc3339
import RouteWatch.Wire.Reader
import RouteWatch.Wire.Record
import RouteWatch.Number.Double
import RouteWatch.Toml.Scan
import RouteWatch.Toml.Tree
import RouteWatch.Toml.Grammar
import RouteWatch.Toml.Document
import RouteWatch.Config.Value
import RouteWatch.Config.Env
import RouteWatch.Config.Decode
import RouteWatch.Config.Load
import RouteWatch.Main
import RouteWatch.Proofs.Service.RemovalByAddress
import RouteWatch.Service.Registry.Lemmas
import RouteWatch.Text.Lowercase
import RouteWatch.Text.Unprintable
import RouteWatch.Text.Ranges
import RouteWatch.Proofs.Schedule.Jobs
import RouteWatch.Proofs.System.Frame
import RouteWatch.Proofs.System.Loops
import RouteWatch.Proofs.Runs
import RouteWatch.Proofs.Schedule.Reference
import RouteWatch.Proofs.System.Untouched
import RouteWatch.Proofs.Service.Events
import RouteWatch.Proofs.System.Mirror
import RouteWatch.Proofs.System.Settle
import RouteWatch.Proofs.System.Retiring
import RouteWatch.Proofs.System.Shutdown
import RouteWatch.Proofs.Schedule.Cadence
import RouteWatch.Proofs.System.Quiet
import RouteWatch.Proofs.System.Passing
import RouteWatch.Proofs.System.CallTimes
import RouteWatch.Proofs.System.JobCalls
import RouteWatch.Proofs.Hub.Contract
import RouteWatch.Proofs.Hub.Mail
import RouteWatch.Proofs.Hub.Delivery
import RouteWatch.Proofs.Hub.SchedulerJobs
import RouteWatch.Proofs.Service.StoreMap
import RouteWatch.Proofs.Service.Requests
import RouteWatch.Proofs.Hub.Wiring
import RouteWatch.Proofs.System.Resync
import RouteWatch.Proofs.System.Moves
import RouteWatch.Proofs.System.ShutdownLimit
import RouteWatch.Proofs.Service.Moments
import RouteWatch.Proofs.System.Stopping
