import OutboundWatch.Numeric.Binary64
import OutboundWatch.Time.Span
import OutboundWatch.Time.SpanText
import OutboundWatch.Probe.Outcome
import OutboundWatch.Health.State
import OutboundWatch.Health.Classifier
import OutboundWatch.Ranking.Status
import OutboundWatch.Ranking.Snapshot
import OutboundWatch.Ranking.Table
import OutboundWatch.Selection.Margin
import OutboundWatch.Selection.Selector
import OutboundWatch.TagMap
import OutboundWatch.Unicode.Printable
import OutboundWatch.Text.Quoted
import OutboundWatch.Text.Blank
import OutboundWatch.Telemetry.Notice
import OutboundWatch.Telemetry.Metrics
import OutboundWatch.Telemetry.Journal
import OutboundWatch.Schedule.Jitter
import OutboundWatch.Drain.Transfer
import OutboundWatch.Drain.Connection
import OutboundWatch.Drain.Tracker
import OutboundWatch.Probe.Error
import OutboundWatch.Unicode.RunTable
import OutboundWatch.Unicode.Composition
import OutboundWatch.Unicode.Bidi
import OutboundWatch.Unicode.HostMapping
import OutboundWatch.Net.Percent
import OutboundWatch.Net.Address
import OutboundWatch.Net.HostPort
import OutboundWatch.Net.Punycode
import OutboundWatch.Net.DomainName
import OutboundWatch.Net.Host
import OutboundWatch.Net.Url
import OutboundWatch.Probe.Target
import OutboundWatch.Probe.Network
import OutboundWatch.Time.Clockwork
import OutboundWatch.Config.Schema
import OutboundWatch.Config.Validation
import OutboundWatch.Registry
import OutboundWatch.Routing
import OutboundWatch.Ranking.Feed
import OutboundWatch.Probe.Prober
import OutboundWatch.Schedule.Cycle
import OutboundWatch.Schedule.Scheduler
import OutboundWatch.Schedule.Collector
import OutboundWatch.Observatory.Signal
import OutboundWatch.Observatory.Error
import OutboundWatch.Observatory.World
import OutboundWatch.Observatory.State
import OutboundWatch.Observatory.Reconcile
import OutboundWatch.Observatory.Work
import OutboundWatch.Admin.View
import OutboundWatch.Admin.Router
import OutboundWatch.Admin.Server
import OutboundWatch.Text.Document
import OutboundWatch.Telemetry.Listing
import OutboundWatch.Config.Document
import OutboundWatch.Admin.Document
import OutboundWatch.Numeric.Shortest
import OutboundWatch.Toml.Value
import OutboundWatch.Toml.Table
import OutboundWatch.Toml.Reader
import OutboundWatch.Toml.Text
import OutboundWatch.Toml.Scalar
import OutboundWatch.Toml.Document
import OutboundWatch.Config.Decode
import OutboundWatch.Config.Load
import OutboundWatch.Config.Reload
import OutboundWatch.Main
import OutboundWatch.Proofs.Runs
import OutboundWatch.Proofs.Tags
import OutboundWatch.Proofs.Ranking
import OutboundWatch.Proofs.Ledger
import OutboundWatch.Proofs.Snapshots
import OutboundWatch.Proofs.History
import OutboundWatch.Proofs.Selection
import OutboundWatch.Proofs.Operations
import OutboundWatch.Proofs.Publishing
import OutboundWatch.Proofs.Agreement
import OutboundWatch.Proofs.Cycles
import OutboundWatch.Proofs.Order
import OutboundWatch.Proofs.Verdicts
import OutboundWatch.Proofs.Hysteresis
import OutboundWatch.Proofs.Pipeline
import OutboundWatch.Proofs.Reconciliation
import OutboundWatch.Proofs.Connections
import OutboundWatch.Proofs.Tracking
import OutboundWatch.Proofs.Phases
import OutboundWatch.Proofs.Clockwork
import OutboundWatch.Proofs.Evolution
import OutboundWatch.Proofs.Permits
import OutboundWatch.Proofs.Conservation
import OutboundWatch.Proofs.Grading
import OutboundWatch.Proofs.Validity
import OutboundWatch.Proofs.Magnitudes
import OutboundWatch.Proofs.Pauses
import OutboundWatch.Proofs.Starting
import OutboundWatch.Proofs.Reloading
import OutboundWatch.Proofs.Refusals
import OutboundWatch.Proofs.Halting
import OutboundWatch.Proofs.Finality
import OutboundWatch.Proofs.Settling
import OutboundWatch.Proofs.Quiescence
import OutboundWatch.Proofs.Deadlines
import OutboundWatch.Proofs.Completions
import OutboundWatch.Proofs.Idempotence
import OutboundWatch.Proofs.Signals
import OutboundWatch.Proofs.Admission
import OutboundWatch.Proofs.Timing
import OutboundWatch.Proofs.Grace
import OutboundWatch.Proofs.Counters
import OutboundWatch.Proofs.Tuning
import OutboundWatch.Proofs.Readers
import OutboundWatch.Proofs.Copying
import OutboundWatch.Proofs.Endings
import OutboundWatch.Proofs.Bookkeeping
import OutboundWatch.Proofs.Accounting
import OutboundWatch.Proofs.Diagnosis
import OutboundWatch.Proofs.Steadiness
import OutboundWatch.Proofs.Pages
import OutboundWatch.Proofs.Stages
import OutboundWatch.Proofs.Skips
import OutboundWatch.Proofs.Addresses
import OutboundWatch.Proofs.Registering
import OutboundWatch.Proofs.Spacing
import OutboundWatch.Proofs.Outcomes
import OutboundWatch.Proofs.Metering
import OutboundWatch.Proofs.Tallies
