import ContestJudge.Adapter.Basic
import ContestJudge.Adapter.Builtin
import ContestJudge.Adapter.Points
import ContestJudge.Build.Compiler
import ContestJudge.Build.Language
import ContestJudge.Build.Source
import ContestJudge.Checker.Basic
import ContestJudge.Checker.Builtin
import ContestJudge.Checker.Registry
import ContestJudge.Command.Request
import ContestJudge.Command.Respond
import ContestJudge.Command.Session
import ContestJudge.Command.Toolchain
import ContestJudge.Command.Transcript
import ContestJudge.Config.Case
import ContestJudge.Config.Environment
import ContestJudge.Config.Interactive
import ContestJudge.Config.Seconds
import ContestJudge.Duration
import ContestJudge.Fault
import ContestJudge.Files.Node
import ContestJudge.Files.Path
import ContestJudge.Files.Store
import ContestJudge.Host.Kernel
import ContestJudge.Host.Machine
import ContestJudge.Host.Octets
import ContestJudge.Host.Programs
import ContestJudge.Host.Sandbox
import ContestJudge.Host.Schedule
import ContestJudge.Host.Script.Builtin
import ContestJudge.Host.Script.Eval
import ContestJudge.Host.Script.Lexer
import ContestJudge.Host.Script.Program
import ContestJudge.Host.Script.Reader
import ContestJudge.Host.Script.State
import ContestJudge.Host.Script.Syntax
import ContestJudge.Host.Script.Value
import ContestJudge.Host.Shell.Arithmetic
import ContestJudge.Host.Shell.Builtin
import ContestJudge.Host.Shell.Condition
import ContestJudge.Host.Shell.Eval
import ContestJudge.Host.Shell.Fields
import ContestJudge.Host.Shell.Launch
import ContestJudge.Host.Shell.Lexer
import ContestJudge.Host.Shell.Pattern
import ContestJudge.Host.Shell.Program
import ContestJudge.Host.Shell.Reader
import ContestJudge.Host.Shell.State
import ContestJudge.Host.Shell.Syntax
import ContestJudge.Host.Task
import ContestJudge.Host.Tools.Calculation
import ContestJudge.Host.Tools.Files
import ContestJudge.Host.Tools.Plain
import ContestJudge.Host.Tools.Printing
import ContestJudge.Host.Tools.Translate
import ContestJudge.Json.Number
import ContestJudge.Json.Reader
import ContestJudge.Json.Record
import ContestJudge.Json.Value
import ContestJudge.Json.Writer
import ContestJudge.Judge.Arguments
import ContestJudge.Judge.CrossPipes
import ContestJudge.Judge.Desk
import ContestJudge.Judge.Grader
import ContestJudge.Judge.Interactive
import ContestJudge.Judge.Journal
import ContestJudge.Judge.Material
import ContestJudge.Judge.Sequence
import ContestJudge.Judge.Standard
import ContestJudge.Main
import ContestJudge.Number.Binary64
import ContestJudge.Number.Decimal
import ContestJudge.Number.Layout
import ContestJudge.Problem.Case
import ContestJudge.Problem.Manifest
import ContestJudge.Proofs.Acceptance
import ContestJudge.Proofs.Attendance
import ContestJudge.Proofs.AttendedConversation
import ContestJudge.Proofs.Binary64Order
import ContestJudge.Proofs.Attribution
import ContestJudge.Proofs.BoundedReading
import ContestJudge.Proofs.CaptureLimits
import ContestJudge.Proofs.CapturePaths
import ContestJudge.Proofs.CheckerGate
import ContestJudge.Proofs.Construction
import ContestJudge.Proofs.Conversation
import ContestJudge.Proofs.Delivery
import ContestJudge.Proofs.Dealings
import ContestJudge.Proofs.Desk
import ContestJudge.Proofs.FileNames
import ContestJudge.Proofs.FiniteReadings
import ContestJudge.Proofs.HandleAnswers
import ContestJudge.Proofs.Histories
import ContestJudge.Proofs.InputHandles
import ContestJudge.Proofs.InputLifetimes
import ContestJudge.Proofs.JsonText
import ContestJudge.Proofs.Leases
import ContestJudge.Proofs.Material
import ContestJudge.Proofs.Numerals
import ContestJudge.Proofs.PipeCourse
import ContestJudge.Proofs.PipeCustody
import ContestJudge.Proofs.PlainSandbox
import ContestJudge.Proofs.PointBounds
import ContestJudge.Proofs.ProcessOutcomes
import ContestJudge.Proofs.ReadFailures
import ContestJudge.Proofs.SandboxContract
import ContestJudge.Proofs.Sequence
import ContestJudge.Proofs.SettingsRoundTrip
import ContestJudge.Proofs.SharedFiles
import ContestJudge.Proofs.Snapshots
import ContestJudge.Proofs.SourceNames
import ContestJudge.Proofs.Transcripts
import ContestJudge.Proofs.Verdict
import ContestJudge.Proofs.Watchdog
import ContestJudge.Proofs.Work
import ContestJudge.Registry
import ContestJudge.Report
import ContestJudge.Sandbox.Basic
import ContestJudge.Sandbox.Capture
import ContestJudge.Sandbox.Interleaving
import ContestJudge.Sandbox.Kernel
import ContestJudge.Sandbox.Launch
import ContestJudge.Sandbox.Local
import ContestJudge.Sandbox.Pipe
import ContestJudge.Sandbox.Scripted
import ContestJudge.Signal
import ContestJudge.Telemetry
import ContestJudge.Text.Character
import ContestJudge.Text.Hex
import ContestJudge.Text.Quoted
import ContestJudge.Text.Utf8
import ContestJudge.Text.Words
import ContestJudge.Verdict
import ContestJudge.Proofs.CaseFiles
import ContestJudge.Proofs.JournalBlindness
import ContestJudge.Proofs.CaseHistory
import ContestJudge.Proofs.Encoding
import ContestJudge.Proofs.Patterns
import ContestJudge.Proofs.Splitting
import ContestJudge.Proofs.VerdictCourse
import ContestJudge.Proofs.PointsGrammar
import ContestJudge.Proofs.DecimalLiterals
import ContestJudge.Proofs.PointsLines
import ContestJudge.Proofs.AdapterOutcomes
import ContestJudge.Proofs.PrintedShares
import ContestJudge.Proofs.TokenSpacing
import ContestJudge.Proofs.BuiltinCheckers
import ContestJudge.Proofs.Workspaces
import ContestJudge.Proofs.SourceFiles
import ContestJudge.Proofs.ToolRuns
import ContestJudge.Proofs.Compilation
import ContestJudge.Proofs.Filling
import ContestJudge.Proofs.InteractorArguments
import ContestJudge.Proofs.Manifests
import ContestJudge.Proofs.PositiveTimes
import ContestJudge.Proofs.SourceCollisions
import ContestJudge.Proofs.LossyReading
import ContestJudge.Proofs.ExceptionNames
import ContestJudge.Proofs.Rounding
import ContestJudge.Proofs.Seconds
import ContestJudge.Proofs.WallClock
