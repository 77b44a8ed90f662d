import GoldenCheck.Attempt
import GoldenCheck.Bless
import GoldenCheck.CaseState
import GoldenCheck.Clock
import GoldenCheck.CommandLine.Arguments
import GoldenCheck.CommandLine.Execute
import GoldenCheck.Comparator
import GoldenCheck.Comparison
import GoldenCheck.Config.Basic
import GoldenCheck.Config.Raw
import GoldenCheck.Config.Resolve
import GoldenCheck.Config.Shape
import GoldenCheck.Decimal.Binary64
import GoldenCheck.Decimal.Digit
import GoldenCheck.Decimal.Magnitude
import GoldenCheck.Decimal.Text
import GoldenCheck.Desk
import GoldenCheck.Duration
import GoldenCheck.Engine
import GoldenCheck.Engine.Waiting
import GoldenCheck.Failure
import GoldenCheck.Files.Bundle
import GoldenCheck.Files.Tree
import GoldenCheck.Files.World
import GoldenCheck.Harness
import GoldenCheck.Json.Basic
import GoldenCheck.LineDiff
import GoldenCheck.Log
import GoldenCheck.Main
import GoldenCheck.Outcome
import GoldenCheck.Path.Basic
import GoldenCheck.Path.Derived
import GoldenCheck.Path.Normal
import GoldenCheck.Policy
import GoldenCheck.Process.Machine
import GoldenCheck.Process.Schedule
import GoldenCheck.Process.Signal
import GoldenCheck.Process.Task
import GoldenCheck.Program.Basic
import GoldenCheck.Program.Installed
import GoldenCheck.Program.Launch
import GoldenCheck.Proofs.CommandLine.Arguments
import GoldenCheck.Proofs.CommandLine.ExitStatus
import GoldenCheck.Proofs.CommandLine.Loading
import GoldenCheck.Proofs.CommandLine.StartingPlace
import GoldenCheck.Proofs.Config.Aliases
import GoldenCheck.Proofs.Config.Clashes
import GoldenCheck.Proofs.Config.Environment
import GoldenCheck.Proofs.Config.Expectations
import GoldenCheck.Proofs.Config.Faults
import GoldenCheck.Proofs.Config.Fields
import GoldenCheck.Proofs.Config.KeyOrder
import GoldenCheck.Proofs.Config.Keys
import GoldenCheck.Proofs.Config.Nesting
import GoldenCheck.Proofs.Config.Selection
import GoldenCheck.Proofs.Config.TimeLimit
import GoldenCheck.Proofs.Config.Validation
import GoldenCheck.Proofs.Cuts
import GoldenCheck.Proofs.Difference.Agreement
import GoldenCheck.Proofs.Difference.Description
import GoldenCheck.Proofs.Difference.LineEnds
import GoldenCheck.Proofs.Difference.Patching
import GoldenCheck.Proofs.Difference.Positions
import GoldenCheck.Proofs.Difference.Rows
import GoldenCheck.Proofs.Engine.AllOrNothing
import GoldenCheck.Proofs.Engine.Closed
import GoldenCheck.Proofs.Engine.Deadline
import GoldenCheck.Proofs.Engine.Format
import GoldenCheck.Proofs.Engine.Waiting
import GoldenCheck.Proofs.Except
import GoldenCheck.Proofs.Files.Above
import GoldenCheck.Proofs.Files.Closed
import GoldenCheck.Proofs.Files.Directories
import GoldenCheck.Proofs.Files.Entering
import GoldenCheck.Proofs.Files.Parent
import GoldenCheck.Proofs.Files.Spelling
import GoldenCheck.Proofs.Files.Staging
import GoldenCheck.Proofs.Files.Walk
import GoldenCheck.Proofs.Json.Grammar
import GoldenCheck.Proofs.Json.Leaves
import GoldenCheck.Proofs.Json.Printed
import GoldenCheck.Proofs.Json.Reader
import GoldenCheck.Proofs.Path.Canonical
import GoldenCheck.Proofs.Path.Derivation
import GoldenCheck.Proofs.Path.Format
import GoldenCheck.Proofs.Path.Joining
import GoldenCheck.Proofs.Path.NormalForm
import GoldenCheck.Proofs.Path.ReportKey
import GoldenCheck.Proofs.Path.RootNames
import GoldenCheck.Proofs.Report.Reading
import GoldenCheck.Proofs.Run.Accounts
import GoldenCheck.Proofs.Run.Bench
import GoldenCheck.Proofs.Run.Blessing
import GoldenCheck.Proofs.Run.Comparators
import GoldenCheck.Proofs.Run.Following
import GoldenCheck.Proofs.Run.Frame
import GoldenCheck.Proofs.Run.Interleaving
import GoldenCheck.Proofs.Run.Isolation
import GoldenCheck.Proofs.Run.Places
import GoldenCheck.Proofs.Run.Polarity
import GoldenCheck.Proofs.Run.References
import GoldenCheck.Proofs.Run.Roots
import GoldenCheck.Proofs.Run.Starts
import GoldenCheck.Proofs.Run.Trouble
import GoldenCheck.Proofs.Run.Words
import GoldenCheck.Proofs.Text.Encoding
import GoldenCheck.Proofs.Text.Exact
import GoldenCheck.Proofs.Text.Lines
import GoldenCheck.Proofs.Text.Lossy
import GoldenCheck.Proofs.Toml.Building
import GoldenCheck.Proofs.Toml.Integers
import GoldenCheck.Proofs.Toml.Reordering
import GoldenCheck.Rehearsal
import GoldenCheck.Report.Console
import GoldenCheck.Report.Record
import GoldenCheck.Shell.Arithmetic
import GoldenCheck.Shell.Builtin.Condition
import GoldenCheck.Shell.Builtin.Control
import GoldenCheck.Shell.Builtin.Directory
import GoldenCheck.Shell.Builtin.Names
import GoldenCheck.Shell.Builtin.Options
import GoldenCheck.Shell.Builtin.Output
import GoldenCheck.Shell.Builtin.Processes
import GoldenCheck.Shell.Builtin.Variables
import GoldenCheck.Shell.Expansion
import GoldenCheck.Shell.Fields
import GoldenCheck.Shell.Grammar
import GoldenCheck.Shell.Jobs
import GoldenCheck.Shell.Lookup
import GoldenCheck.Shell.Number
import GoldenCheck.Shell.Pattern
import GoldenCheck.Shell.Redirection
import GoldenCheck.Shell.Run
import GoldenCheck.Shell.Script
import GoldenCheck.Shell.Session
import GoldenCheck.Shell.Start
import GoldenCheck.Shell.Token
import GoldenCheck.Shell.WordReader
import GoldenCheck.Staging
import GoldenCheck.TestCase
import GoldenCheck.Text.Blank
import GoldenCheck.Text.Lines
import GoldenCheck.Text.Quoted
import GoldenCheck.Text.Unseen
import GoldenCheck.Text.Utf8
import GoldenCheck.Time.Calendar
import GoldenCheck.Time.DatePhrase
import GoldenCheck.Time.DateWord
import GoldenCheck.Toml.Document
import GoldenCheck.Toml.Lexeme
import GoldenCheck.Toml.Value
import GoldenCheck.Tools.Basic
import GoldenCheck.Tools.Cat
import GoldenCheck.Tools.Cmp
import GoldenCheck.Tools.Count
import GoldenCheck.Tools.Diff.Color
import GoldenCheck.Tools.Diff.Columns
import GoldenCheck.Tools.Diff.Compare
import GoldenCheck.Tools.Diff.Formats
import GoldenCheck.Tools.Diff.Hunk
import GoldenCheck.Tools.Diff.Lines
import GoldenCheck.Tools.Diff.Merged
import GoldenCheck.Tools.Diff.Script
import GoldenCheck.Tools.Diff.Style
import GoldenCheck.Tools.Options
import GoldenCheck.Tools.Quoting
import GoldenCheck.Tools.Regex
import GoldenCheck.Tools.RegexReader
import GoldenCheck.Tools.Rm
import GoldenCheck.Tools.Sleep
import GoldenCheck.Tools.Touch
import GoldenCheck.Verification.Progress
import GoldenCheck.Verification.Run
