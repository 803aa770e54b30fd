import CodeDesk.Command.Dispatch
import CodeDesk.Command.LiveProcess
import CodeDesk.Command.Markup
import CodeDesk.Command.Registry
import CodeDesk.Command.Run
import CodeDesk.Command.Runner
import CodeDesk.Command.Schedule
import CodeDesk.Command.Sinks
import CodeDesk.Command.Spec
import CodeDesk.CommandLine.Form
import CodeDesk.CommandLine.Program
import CodeDesk.CommandLine.Reader
import CodeDesk.Data.Json.Parser
import CodeDesk.Data.Json.Printer
import CodeDesk.Data.Power
import CodeDesk.Data.Table
import CodeDesk.Data.Toml.Parser
import CodeDesk.Data.Toml.Printer
import CodeDesk.Debug.Adapter
import CodeDesk.Debug.Break
import CodeDesk.Debug.Controller
import CodeDesk.Debug.Params
import CodeDesk.Debug.Script
import CodeDesk.Debug.State
import CodeDesk.Debug.View
import CodeDesk.Desk.Basic
import CodeDesk.Desk.Debugging
import CodeDesk.Desk.Editing
import CodeDesk.Desk.Events
import CodeDesk.Desk.Intent
import CodeDesk.Desk.Running
import CodeDesk.Desk.Searching
import CodeDesk.Document.Buffer
import CodeDesk.Document.Documents
import CodeDesk.Document.Language
import CodeDesk.Document.OpenList
import CodeDesk.Document.Sidecar
import CodeDesk.Document.Store
import CodeDesk.Files.Changes
import CodeDesk.Files.Disk
import CodeDesk.Files.Path
import CodeDesk.Find.FileTree
import CodeDesk.Find.Link
import CodeDesk.Find.Replacer
import CodeDesk.Find.Request
import CodeDesk.Find.Results
import CodeDesk.Find.Scan
import CodeDesk.Machine.Arithmetic
import CodeDesk.Machine.Condition
import CodeDesk.Machine.Console
import CodeDesk.Machine.Escape
import CodeDesk.Machine.Executable
import CodeDesk.Machine.Format
import CodeDesk.Machine.Host
import CodeDesk.Machine.Process
import CodeDesk.Machine.Program.Basic
import CodeDesk.Machine.Program.Files
import CodeDesk.Machine.Program.Text
import CodeDesk.Machine.Script
import CodeDesk.Machine.ScriptParser
import CodeDesk.Machine.Shell.Basic
import CodeDesk.Machine.Shell.Builtins
import CodeDesk.Machine.Shell.Evaluation
import CodeDesk.Machine.Shell.Words
import CodeDesk.Main
import CodeDesk.Regex.Parser
import CodeDesk.Regex.Program
import CodeDesk.Regex.Replace
import CodeDesk.Regex.Search
import CodeDesk.Service.Answer
import CodeDesk.Service.Commands
import CodeDesk.Service.Debugging
import CodeDesk.Service.Desk
import CodeDesk.Service.Documents
import CodeDesk.Service.Runs
import CodeDesk.Service.Searching
import CodeDesk.Service.Settings
import CodeDesk.Service.Templates
import CodeDesk.Settings.LanguageOptions
import CodeDesk.Settings.ProjectSettings
import CodeDesk.Settings.Recent
import CodeDesk.Settings.Stored
import CodeDesk.Template.Syntax
import CodeDesk.Template.Values
import CodeDesk.Template.Variable
import CodeDesk.Text.Decimal
import CodeDesk.Text.Lines
import CodeDesk.Text.Region
import CodeDesk.Text.Utf8
import CodeDesk.Unicode.CaseMap
import CodeDesk.Unicode.Category
import CodeDesk.Unicode.Folding
import CodeDesk.Unicode.Script
import CodeDesk.Proofs.Text.Pieces
import CodeDesk.Proofs.Regex.Occurrence
import CodeDesk.Proofs.Find.Exchange
import CodeDesk.Proofs.Regex.Literal
import CodeDesk.Proofs.Files.Path
import CodeDesk.Proofs.Find.Matches
import CodeDesk.Proofs.Find.Replacing
import CodeDesk.Proofs.Find.AnyOrder
import CodeDesk.Proofs.Desk.Batches
import CodeDesk.Proofs.Desk.Reader
import CodeDesk.Proofs.Desk.EventQueue
import CodeDesk.Proofs.Desk.OutputFirst
import CodeDesk.Proofs.Debug.Operation
import CodeDesk.Proofs.Debug.StaleResult
import CodeDesk.Proofs.Debug.BreakEdit
import CodeDesk.Proofs.Debug.BreakIdentity
import CodeDesk.Proofs.Debug.Request
import CodeDesk.Proofs.Debug.BreakChoice
import CodeDesk.Proofs.Debug.BreakNumber
import CodeDesk.Proofs.Debug.Row
import CodeDesk.Proofs.Debug.Mirror
import CodeDesk.Proofs.Debug.Repaint
import CodeDesk.Proofs.Debug.LineMark
import CodeDesk.Proofs.Debug.LateReport
import CodeDesk.Proofs.Debug.Dismissal
import CodeDesk.Proofs.Data.Table
import CodeDesk.Proofs.Debug.Refusal
import CodeDesk.Proofs.Command.Output
import CodeDesk.Proofs.Command.Stages
import CodeDesk.Proofs.Command.Workshop
import CodeDesk.Proofs.Command.Errands
import CodeDesk.Proofs.Command.Record
import CodeDesk.Proofs.Command.Consistent
import CodeDesk.Proofs.Command.Calls
import CodeDesk.Proofs.Command.OneRun
import CodeDesk.Proofs.Template.Segmentation
import CodeDesk.Proofs.Template.Values
import CodeDesk.Proofs.Command.KeptAnswers
import CodeDesk.Proofs.Command.BufferNeed
import CodeDesk.Proofs.Command.Settling
import CodeDesk.Proofs.Command.Addresses
import CodeDesk.Proofs.Command.Menu
import CodeDesk.Proofs.Command.Broadcast
import CodeDesk.Proofs.Document.Open
import CodeDesk.Proofs.Find.Targets
import CodeDesk.Proofs.Find.Captured
import CodeDesk.Proofs.Desk.Session
import CodeDesk.Proofs.Desk.OnePath
import CodeDesk.Proofs.Desk.KeptReplacements
import CodeDesk.Proofs.Find.Crew
import CodeDesk.Proofs.Find.Schedule
import CodeDesk.Proofs.Files.Locate
import CodeDesk.Proofs.Files.Walk
import CodeDesk.Proofs.Find.Discovery
import CodeDesk.Proofs.Desk.ListedMatches
import CodeDesk.Proofs.Files.Stay
import CodeDesk.Proofs.Desk.Moves
import CodeDesk.Proofs.Desk.Leftovers
import CodeDesk.Proofs.Document.Recency
import CodeDesk.Proofs.Find.Spelling
import CodeDesk.Proofs.Find.Navigable
import CodeDesk.Proofs.Document.Saved
import CodeDesk.Proofs.Find.FoundAgain
import CodeDesk.Proofs.Document.Rebase
import CodeDesk.Proofs.Command.Turns
import CodeDesk.Proofs.Command.Signalled
import CodeDesk.Proofs.Command.Course
import CodeDesk.Proofs.Command.Pace
import CodeDesk.Proofs.Command.Told
import CodeDesk.Proofs.Command.Execution
import CodeDesk.Proofs.Unicode.LowerCase
import CodeDesk.Proofs.Data.Value
import CodeDesk.Proofs.Text.Utf8
import CodeDesk.Proofs.Data.Json
import CodeDesk.Proofs.Command.Stored
import CodeDesk.Proofs.Settings.RoundTrip
import CodeDesk.Proofs.Regex.Groups
import CodeDesk.Proofs.Command.References
import CodeDesk.Proofs.Command.Tags
import CodeDesk.Proofs.Text.LineStarts
import CodeDesk.Proofs.Document.ExactRegions
import CodeDesk.Proofs.Find.FileLines
import CodeDesk.Proofs.Find.SafeReplace
import CodeDesk.Proofs.Desk.SaveAll
import CodeDesk.Proofs.Debug.BreakReport
import CodeDesk.Proofs.Settings.DebugArguments
import CodeDesk.Proofs.Document.Tabs
import CodeDesk.Proofs.Document.AllOrNothing
import CodeDesk.Proofs.Files.Join
import CodeDesk.Proofs.Command.WorkingDirectory
import CodeDesk.Proofs.Desk.Executable
import CodeDesk.Proofs.Settings.Recent
import CodeDesk.Proofs.Data.JsonCut
import CodeDesk.Proofs.Settings.Faithful
import CodeDesk.Proofs.Settings.StateFile
