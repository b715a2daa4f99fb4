import CallGuard.Breaker.Basic
import CallGuard.Breaker.Call
import CallGuard.Breaker.Execution
import CallGuard.Breaker.Machine
import CallGuard.Breaker.State
import CallGuard.Classification
import CallGuard.CommandLine.Arguments
import CallGuard.CommandLine.Basic
import CallGuard.CommandLine.CheckReport
import CallGuard.CommandLine.Simulation
import CallGuard.Counting.Counts
import CallGuard.Counting.Repetition
import CallGuard.Counting.Rolling
import CallGuard.Counting.Window
import CallGuard.Decimal.Layout
import CallGuard.Decimal.Numeral
import CallGuard.Decimal.Shortest
import CallGuard.Document.Basic
import CallGuard.Document.Json.Printer
import CallGuard.Document.Json.Reader
import CallGuard.Document.Toml.Reader
import CallGuard.Document.Toml.Scalars
import CallGuard.Document.Toml.Strings
import CallGuard.Document.Toml.Tables
import CallGuard.Drill.Script
import CallGuard.Drill.Stage
import CallGuard.Fault.Basic
import CallGuard.Fault.Cache
import CallGuard.Fault.Database
import CallGuard.Fault.Http
import CallGuard.Fault.InputOutput
import CallGuard.Fault.Request
import CallGuard.Fault.Workflow
import CallGuard.Guard
import CallGuard.Journal.Metrics
import CallGuard.Journal.Notice
import CallGuard.Keyed
import CallGuard.Main
import CallGuard.Proofs.Breaker.CallLedger
import CallGuard.Proofs.Breaker.CallPaths
import CallGuard.Proofs.Breaker.CountingModes
import CallGuard.Proofs.Breaker.Generations
import CallGuard.Proofs.Breaker.InStep
import CallGuard.Proofs.Breaker.Monitoring
import CallGuard.Proofs.Breaker.Onlookers
import CallGuard.Proofs.Breaker.OpenPeriod
import CallGuard.Proofs.Breaker.Outage
import CallGuard.Proofs.Breaker.PassThrough
import CallGuard.Proofs.Breaker.ProbeBalance
import CallGuard.Proofs.Breaker.ProbeEpisodes
import CallGuard.Proofs.Breaker.Recording
import CallGuard.Proofs.Breaker.Recovery
import CallGuard.Proofs.Breaker.RequestConservation
import CallGuard.Proofs.Breaker.Service
import CallGuard.Proofs.Breaker.Session
import CallGuard.Proofs.Breaker.SessionRules
import CallGuard.Proofs.Breaker.StaleResults
import CallGuard.Proofs.Breaker.StateDiagram
import CallGuard.Proofs.Breaker.StraddlingCalls
import CallGuard.Proofs.Breaker.Streaks
import CallGuard.Proofs.Breaker.TransitionRecord
import CallGuard.Proofs.Breaker.Transitions
import CallGuard.Proofs.Breaker.Tripping
import CallGuard.Proofs.Classification.Deciding
import CallGuard.Proofs.Classification.Layers
import CallGuard.Proofs.Classification.SharedRules
import CallGuard.Proofs.CommandLine.ReportedWaits
import CallGuard.Proofs.CommandLine.SimulatedDiagram
import CallGuard.Proofs.Counting.BucketOrder
import CallGuard.Proofs.Counting.FirstWindow
import CallGuard.Proofs.Counting.History
import CallGuard.Proofs.Counting.JumpingClocks
import CallGuard.Proofs.Counting.Lookback
import CallGuard.Proofs.Counting.PlainCount
import CallGuard.Proofs.Counting.Repetition
import CallGuard.Proofs.Counting.Tally
import CallGuard.Proofs.Counting.WordLimits
import CallGuard.Proofs.Counting.WordSums
import CallGuard.Proofs.Decimal.Order
import CallGuard.Proofs.Decimal.Rounding
import CallGuard.Proofs.Decimal.Scaled
import CallGuard.Proofs.Decimal.Whole
import CallGuard.Proofs.Guard.Booking
import CallGuard.Proofs.Guard.CancelledStart
import CallGuard.Proofs.Guard.Conduct
import CallGuard.Proofs.Guard.LastingFailure
import CallGuard.Proofs.Guard.Nesting
import CallGuard.Proofs.Journal.Series
import CallGuard.Proofs.Registry.Contents
import CallGuard.Proofs.Retry.Attempts
import CallGuard.Proofs.Retry.Cancelling
import CallGuard.Proofs.Retry.Powers
import CallGuard.Proofs.Retry.Visits
import CallGuard.Proofs.Retry.Waits
import CallGuard.Proofs.Retry.WholeBackoff
import CallGuard.Proofs.Retry.ZeroInterval
import CallGuard.Proofs.Settings.Violations
import CallGuard.Registry
import CallGuard.Retry.Backoff
import CallGuard.Retry.Policy
import CallGuard.Retry.Run
import CallGuard.Settings.Address
import CallGuard.Settings.Basic
import CallGuard.Settings.Decoding
import CallGuard.Settings.Loading
import CallGuard.Settings.Validation
import CallGuard.Text.Blank
import CallGuard.Text.Escaping
import CallGuard.Text.Quoted
import CallGuard.Text.Scan
import CallGuard.Time.Instant
import CallGuard.Time.Span
import CallGuard.Typed
