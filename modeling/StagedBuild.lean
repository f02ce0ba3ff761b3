import StagedBuild.Target
import StagedBuild.Text.Cut
import StagedBuild.ArtifactPath
import StagedBuild.Source
import StagedBuild.ThrowSite
import StagedBuild.Diagnostic
import StagedBuild.Diagnostic.Underline
import StagedBuild.Diagnostic.Render
import StagedBuild.OsError
import StagedBuild.Failure
import StagedBuild.Store
import StagedBuild.Step
import StagedBuild.Batch
import StagedBuild.Calendar
import StagedBuild.Calendar.Format
import StagedBuild.Calendar.Reader
import StagedBuild.CommandLine.Arguments
import StagedBuild.Toml.Quoted
import StagedBuild.Decimal.Double
import StagedBuild.Toml.Value
import StagedBuild.Toml.Scalar
import StagedBuild.Toml.Node
import StagedBuild.Toml.Statement
import StagedBuild.Toml.Document
import StagedBuild.Toml.Quoted.Writer
import StagedBuild.FilePath
import StagedBuild.Toolchain
import StagedBuild.Config
import StagedBuild.Config.File
import StagedBuild.Text.Blank
import StagedBuild.Progress
import StagedBuild.CommandLine.Outcome
import StagedBuild.Script.Numeral
import StagedBuild.Script
import StagedBuild.Script.Token
import StagedBuild.Script.Cursor
import StagedBuild.Script.Reader
import StagedBuild.FileTree
import StagedBuild.Process.Signal
import StagedBuild.Text.Utf8
import StagedBuild.Text.Octets
import StagedBuild.Process.World
import StagedBuild.Process.Course
import StagedBuild.Script.Shell
import StagedBuild.Script.Builtin.Arguments
import StagedBuild.Script.Builtin.Aliases
import StagedBuild.Script.Builtin.Directory
import StagedBuild.Script.Builtin.Variables
import StagedBuild.Script.Builtin.Input
import StagedBuild.Script.Rights
import StagedBuild.Script.Builtin.Rights
import StagedBuild.Script.Builtin.Settings
import StagedBuild.Script.Job
import StagedBuild.Script.Builtin.Signals
import StagedBuild.Text.Spelling
import StagedBuild.Script.Quotation
import StagedBuild.Script.Print
import StagedBuild.Script.Condition
import StagedBuild.Script.Arithmetic
import StagedBuild.Script.Pattern
import StagedBuild.Script.Field
import StagedBuild.Script.Expansion
import StagedBuild.Script.Builtin
import StagedBuild.Script.Tools.Call
import StagedBuild.Script.Tools.Options
import StagedBuild.Script.Tools.Input
import StagedBuild.Script.Tools.Applying
import StagedBuild.Script.Tools.Quantity
import StagedBuild.Script.Tools.Characters
import StagedBuild.Script.Tools.Showing
import StagedBuild.Text.Width
import StagedBuild.Script.Tools.Counting
import StagedBuild.Script.Tools.Cutting
import StagedBuild.Text.Letters
import StagedBuild.Regex.Basic
import StagedBuild.Regex.Match
import StagedBuild.Regex.Reader
import StagedBuild.Script.Tools.Order
import StagedBuild.Script.Tools.Evaluation
import StagedBuild.Script.Tools.Mode
import StagedBuild.Script.Tools.Finding.Expression
import StagedBuild.Script.Tools.Removing
import StagedBuild.Script.Tools.Listing
import StagedBuild.Script.Tools.Finding.Format
import StagedBuild.Script.Tools.Finding.Reader
import StagedBuild.Script.Tools.Finding
import StagedBuild.Script.Tools.Granting
import StagedBuild.Script.Tools.Grep
import StagedBuild.Script.Tools.Linking
import StagedBuild.Script.Tools.Making
import StagedBuild.Script.Tools.Neighbours
import StagedBuild.Script.Tools.Printing
import StagedBuild.Script.Tools.Portions
import StagedBuild.Script.Tools.Sed.Program
import StagedBuild.Script.Tools.Sed.Escapes
import StagedBuild.Script.Tools.Sed.Reader
import StagedBuild.Script.Tools.Sed.Replacing
import StagedBuild.Script.Tools.Sed.Session
import StagedBuild.Script.Tools.Sed.Run
import StagedBuild.Script.Tools.Sed
import StagedBuild.Script.Tools.Sequence
import StagedBuild.Script.Tools.Sorting
import StagedBuild.Script.Tools.Starting
import StagedBuild.Script.Tools.Transfer
import StagedBuild.Script.Tools
import StagedBuild.Script.Program
import StagedBuild.Script.Lookup
import StagedBuild.Script.Run
import StagedBuild.Script.SystemFiles
import StagedBuild.Workspace
import StagedBuild.Script.Launch
import StagedBuild.CommandLine.Host
import StagedBuild.Options
import StagedBuild.Pipeline
import StagedBuild.Pipeline.Operation
import StagedBuild.Pipeline.Setting
import StagedBuild.Report
import StagedBuild.Report.Histogram
import StagedBuild.Report.Summary
import StagedBuild.Main
import StagedBuild.Proofs.Reply
import StagedBuild.Proofs.Stopping
import StagedBuild.Proofs.Accounting
import StagedBuild.Proofs.Discipline
import StagedBuild.Proofs.Reference
import StagedBuild.Proofs.ArtifactName
import StagedBuild.Proofs.Writing
import StagedBuild.Proofs.Overwriting
import StagedBuild.Proofs.Running
import StagedBuild.Proofs.Independence
import StagedBuild.Proofs.Quoting
import StagedBuild.Proofs.Configuration
import StagedBuild.Proofs.Recording
import StagedBuild.Proofs.Visiting
import StagedBuild.Proofs.Rounds
import StagedBuild.Proofs.Chaining
import StagedBuild.Proofs.Tallying
import StagedBuild.Proofs.Underlining
import StagedBuild.Proofs.Cutting
import StagedBuild.Proofs.Layout
import StagedBuild.Proofs.Rejoining
import StagedBuild.Proofs.PathNames
import StagedBuild.Proofs.Placing
import StagedBuild.Proofs.Hosting
import StagedBuild.Proofs.Archiving
import StagedBuild.Proofs.ByteOrder
import StagedBuild.Proofs.DocumentKeys
import StagedBuild.Proofs.Fields
import StagedBuild.Proofs.KeyOrder
import StagedBuild.Proofs.Enclosing
import StagedBuild.Proofs.Summarizing
import StagedBuild.Proofs.Causes
import StagedBuild.Proofs.Gating
import StagedBuild.Proofs.Viewing
import StagedBuild.Proofs.Employing
import StagedBuild.Proofs.Equipping
