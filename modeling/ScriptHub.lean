import ScriptHub.Admin.Command
import ScriptHub.Admin.Report
import ScriptHub.Builtin
import ScriptHub.Config.Basic
import ScriptHub.Config.Environment
import ScriptHub.Config.Json
import ScriptHub.Config.Load
import ScriptHub.Config.Path
import ScriptHub.Config.Setting
import ScriptHub.Console.Line
import ScriptHub.Decimal.Double
import ScriptHub.Decimal.Integer
import ScriptHub.Dispatcher.Basic
import ScriptHub.Dispatcher.HookTable
import ScriptHub.Dispatcher.Json
import ScriptHub.Dispatcher.Tally
import ScriptHub.Error
import ScriptHub.Error.Json
import ScriptHub.Event.Basic
import ScriptHub.Event.Json
import ScriptHub.Event.Kind
import ScriptHub.Event.PerKind
import ScriptHub.Host.Arguments
import ScriptHub.Host.Arrival
import ScriptHub.Host.EntryPoint
import ScriptHub.Host.Invocation
import ScriptHub.Host.Session
import ScriptHub.Host.Timer
import ScriptHub.Journal
import ScriptHub.Json.Basic
import ScriptHub.Json.Reader
import ScriptHub.Json.Writer
import ScriptHub.Main
import ScriptHub.Named
import ScriptHub.Run.Administration
import ScriptHub.Run.Basic
import ScriptHub.Run.Dispatch
import ScriptHub.Run.Perform
import ScriptHub.Run.Registration
import ScriptHub.Scenario.Basic
import ScriptHub.Scenario.Behaviour
import ScriptHub.Scenario.Play
import ScriptHub.Script.Code
import ScriptHub.Script.Failure
import ScriptHub.Script.Spec
import ScriptHub.Settings
import ScriptHub.Text.Blank
import ScriptHub.Text.LowerCase
import ScriptHub.Text.LowerCase.Table
import ScriptHub.Text.Occurrence
import ScriptHub.Text.Quoted
import ScriptHub.Text.Quoted.Table
import ScriptHub.Toml.Basic
import ScriptHub.Toml.DateTime
import ScriptHub.Toml.Number
import ScriptHub.Toml.Reader
import ScriptHub.Toml.Text
import ScriptHub.Toml.Tree
import ScriptHub.Toml.Value
import ScriptHub.Verdict
import ScriptHub.Verdict.Json
import ScriptHub.Proofs.Decimal.Integer
import ScriptHub.Proofs.Dispatcher.Chain
import ScriptHub.Proofs.Dispatcher.WellFormed
import ScriptHub.Proofs.Dispatcher.Evolution
import ScriptHub.Proofs.Dispatcher.Counters
import ScriptHub.Proofs.Run.Course
import ScriptHub.Proofs.Run.Span
import ScriptHub.Proofs.Run.RunCourse
import ScriptHub.Proofs.Run.HandlerCalls
import ScriptHub.Proofs.Run.History
import ScriptHub.Proofs.Run.CounterHistory
import ScriptHub.Proofs.Run.Removal
import ScriptHub.Proofs.Run.Walk
import ScriptHub.Proofs.Run.Dispatches
import ScriptHub.Proofs.Run.CallHistory
import ScriptHub.Proofs.Run.Relations
import ScriptHub.Proofs.Run.Nesting
import ScriptHub.Proofs.Run.Coherence
import ScriptHub.Proofs.Run.Comparison
import ScriptHub.Proofs.Run.Inertness
import ScriptHub.Proofs.Run.Accounting
import ScriptHub.Proofs.Run.Sweep
import ScriptHub.Proofs.Run.Shutdown
import ScriptHub.Proofs.Admin.Grammar
import ScriptHub.Proofs.Admin.Commands
import ScriptHub.Proofs.Admin.Surface
import ScriptHub.Proofs.Admin.HubCommand
import ScriptHub.Proofs.Run.Veto
import ScriptHub.Proofs.Run.Toggles
import ScriptHub.Proofs.Run.Reversal
import ScriptHub.Proofs.Run.Ledger
import ScriptHub.Proofs.Run.Veil
import ScriptHub.Proofs.Run.Parallel
import ScriptHub.Proofs.Run.Isolation
import ScriptHub.Proofs.Run.Agreement
import ScriptHub.Proofs.Run.Catching
import ScriptHub.Proofs.Run.Lifeline
import ScriptHub.Proofs.Run.Ids
import ScriptHub.Proofs.Event.Codec
import ScriptHub.Proofs.Text.LetterCase
import ScriptHub.Proofs.Text.Trimming
import ScriptHub.Proofs.Text.Words
import ScriptHub.Proofs.Text.Excerpt
import ScriptHub.Proofs.Console.Grammar
import ScriptHub.Proofs.Console.Users
import ScriptHub.Proofs.Run.Sparing
import ScriptHub.Proofs.Host.Lines
import ScriptHub.Proofs.Host.Stream
import ScriptHub.Proofs.Host.Builtins
import ScriptHub.Proofs.Host.Transcript
import ScriptHub.Proofs.Host.Verdicts
import ScriptHub.Proofs.Host.WordFilter
import ScriptHub.Proofs.Host.Locality
import ScriptHub.Proofs.Config.Fields
import ScriptHub.Proofs.Config.Lossless
import ScriptHub.Proofs.Toml.Tables
import ScriptHub.Proofs.Config.Given
import ScriptHub.Proofs.Config.Layers
import ScriptHub.Proofs.Decimal.Double
import ScriptHub.Proofs.Config.Spelling
import ScriptHub.Proofs.Admin.Reports
import ScriptHub.Proofs.Admin.Lookalikes
import ScriptHub.Proofs.Run.Builder
import ScriptHub.Proofs.Dispatcher.Renaming
import ScriptHub.Proofs.Run.Guise
import ScriptHub.Proofs.Run.Retelling
import ScriptHub.Proofs.Run.Deliveries
import ScriptHub.Proofs.Run.Names
