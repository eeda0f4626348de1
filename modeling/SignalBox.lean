import SignalBox.Ascending
import SignalBox.Cli.Files
import SignalBox.Cli.Log
import SignalBox.Cli.Options
import SignalBox.Cli.Run
import SignalBox.Cli.Settings
import SignalBox.Condition
import SignalBox.Config
import SignalBox.Document.Basic
import SignalBox.Document.Condition
import SignalBox.Document.Config
import SignalBox.Document.Evaluation
import SignalBox.Document.Fault
import SignalBox.Document.Lock
import SignalBox.Document.Notation
import SignalBox.Document.Plant
import SignalBox.Document.State
import SignalBox.Engine
import SignalBox.Error
import SignalBox.Json.Basic
import SignalBox.Json.Decode
import SignalBox.Json.MergePatch
import SignalBox.Json.Parser
import SignalBox.Json.Printer
import SignalBox.Lock.Build
import SignalBox.Lock.Column
import SignalBox.Lock.Gap
import SignalBox.Lock.Requirement
import SignalBox.Lock.Resolve
import SignalBox.Lock.Row
import SignalBox.Lock.Table
import SignalBox.Main
import SignalBox.Notation.Cell
import SignalBox.Notation.Error
import SignalBox.Notation.Lexer
import SignalBox.Notation.Parser
import SignalBox.Notation.Printer
import SignalBox.Notation.Token
import SignalBox.Notice
import SignalBox.Plant.Adjacency
import SignalBox.Plant.Data
import SignalBox.Plant.Database
import SignalBox.Plant.Naming
import SignalBox.Plant.Object
import SignalBox.Plant.Position
import SignalBox.Proofs.Answers
import SignalBox.Proofs.Backing
import SignalBox.Proofs.Completeness
import SignalBox.Proofs.Consistency
import SignalBox.Proofs.Contributions
import SignalBox.Proofs.Coverage
import SignalBox.Proofs.Entries
import SignalBox.Proofs.Evaluation
import SignalBox.Proofs.Exclusion
import SignalBox.Proofs.FailSafe
import SignalBox.Proofs.Fallible
import SignalBox.Proofs.Grammar
import SignalBox.Proofs.Levels
import SignalBox.Proofs.LeverStage
import SignalBox.Proofs.Lists
import SignalBox.Proofs.LookAhead
import SignalBox.Proofs.Predicates
import SignalBox.Proofs.Proceeding
import SignalBox.Proofs.Runs
import SignalBox.Proofs.SignalCoverage
import SignalBox.Proofs.Stages
import SignalBox.Proofs.Survey
import SignalBox.Proofs.Targets
import SignalBox.Proofs.Writing
import SignalBox.Relay.Basic
import SignalBox.Relay.Predicate
import SignalBox.Relay.Stage
import SignalBox.Relay.Sweep
import SignalBox.Report
import SignalBox.Signal.Aspect
import SignalBox.Signal.Graph
import SignalBox.Signal.Network
import SignalBox.Signal.Propagation
import SignalBox.State
import SignalBox.Table
import SignalBox.Text.Blank
import SignalBox.Text.DecimalDigit
import SignalBox.Text.Hidden
import SignalBox.Text.Numeral
import SignalBox.Text.Quoted
import SignalBox.Time.Calendar
import SignalBox.Time.Rfc3339
import SignalBox.Time.Timestamp
import SignalBox.Toml.Moment
import SignalBox.Toml.Number
import SignalBox.Toml.Parser
import SignalBox.Toml.Tables
import SignalBox.Toml.Text
import SignalBox.Toml.Value
import SignalBox.Proofs.Cascade
import SignalBox.Proofs.Unlocking
import SignalBox.Proofs.Rest
import SignalBox.Proofs.Queries
import SignalBox.Proofs.Horizon
import SignalBox.Proofs.Reading
import SignalBox.Proofs.Spelling
import SignalBox.Proofs.Shape
import SignalBox.Proofs.Rendering
import SignalBox.Proofs.Levelling
import SignalBox.Proofs.RoundTrip
import SignalBox.Proofs.Canonical
import SignalBox.Proofs.Occurrences
import SignalBox.Proofs.ShortestWalks
import SignalBox.Proofs.Reports
import SignalBox.Proofs.GapTolerance
import SignalBox.Proofs.DroppedRows
import SignalBox.Proofs.RowOrder
import SignalBox.Proofs.RouteIndices
import SignalBox.Proofs.LeverLatch
import SignalBox.Proofs.History
import SignalBox.Proofs.LeverFindings
import SignalBox.Proofs.ThrowOutTaking
import SignalBox.Proofs.Clock
import SignalBox.Proofs.OccupancyTimers
import SignalBox.Proofs.SideBySide
import SignalBox.Proofs.ControlModes
import SignalBox.Proofs.Occupancy
import SignalBox.Proofs.Lossless
import SignalBox.Proofs.Adjoining
import SignalBox.Proofs.TotalControl
import SignalBox.Proofs.ControlledCells
import SignalBox.Proofs.Parts
import SignalBox.Proofs.Separation
import SignalBox.Proofs.ThrowOutHolding
import SignalBox.Proofs.LeverlessRoutes
import SignalBox.Proofs.InertControls
import SignalBox.Proofs.PartOrder
import SignalBox.Proofs.RouteOrder
import SignalBox.Proofs.Supply
import SignalBox.Proofs.CoveredStates
import SignalBox.Proofs.OldDocuments
import SignalBox.Proofs.AskedLeaves
import SignalBox.Proofs.Substitution
import SignalBox.Proofs.Resolution
import SignalBox.Proofs.TypedLeaves
import SignalBox.Proofs.LeverToButton
import SignalBox.Proofs.Places
import SignalBox.Proofs.Mutations
import SignalBox.Proofs.Register
import SignalBox.Proofs.ExactIndices
import SignalBox.Proofs.RepeaterSynthesis
import SignalBox.Proofs.SignalOrder
import SignalBox.Proofs.Insertion
import SignalBox.Proofs.LeversAndTracks
import SignalBox.Proofs.Records
import SignalBox.Proofs.MergedSettings
