import ToolGate.Action
import ToolGate.CommandLine.Quoting
import ToolGate.CommandLine.VariableName
import ToolGate.Console
import ToolGate.Environment
import ToolGate.ExecArgs
import ToolGate.Failure
import ToolGate.Gate
import ToolGate.Host.Arithmetic
import ToolGate.Host.Builtin
import ToolGate.Host.Builtin.Directories
import ToolGate.Host.Builtin.Jobs
import ToolGate.Host.Builtin.Leaving
import ToolGate.Host.Builtin.Limits
import ToolGate.Host.Builtin.Names
import ToolGate.Host.Builtin.Signals
import ToolGate.Host.Builtin.Table
import ToolGate.Host.Builtin.Variables
import ToolGate.Host.Builtin.Words
import ToolGate.Host.CharClass
import ToolGate.Host.Condition
import ToolGate.Host.Condition.Program
import ToolGate.Host.Condition.Shell
import ToolGate.Host.Editing
import ToolGate.Host.Editing.Reading
import ToolGate.Host.Editing.Running
import ToolGate.Host.Escapes
import ToolGate.Host.Execution
import ToolGate.Host.Execution.Calling
import ToolGate.Host.Execution.Children
import ToolGate.Host.Execution.Lines
import ToolGate.Host.Execution.Opening
import ToolGate.Host.Execution.Programs
import ToolGate.Host.Execution.Redirecting
import ToolGate.Host.Expansion
import ToolGate.Host.Fields
import ToolGate.Host.FileTree
import ToolGate.Host.Finding
import ToolGate.Host.Floating
import ToolGate.Host.Format
import ToolGate.Host.Loading
import ToolGate.Host.Machine
import ToolGate.Host.Numeral
import ToolGate.Host.Pattern
import ToolGate.Host.Printing
import ToolGate.Host.Quotation
import ToolGate.Host.Regex
import ToolGate.Host.Script
import ToolGate.Host.Script.Reading
import ToolGate.Host.Script.Token
import ToolGate.Host.Session
import ToolGate.Host.Station
import ToolGate.Host.Utility
import ToolGate.Host.Utility.Copying
import ToolGate.Host.Utility.Creating
import ToolGate.Host.Utility.Editor
import ToolGate.Host.Utility.Lines
import ToolGate.Host.Utility.Listing
import ToolGate.Host.Utility.Options
import ToolGate.Host.Utility.Removing
import ToolGate.Host.Utility.Sorting
import ToolGate.Host.Utility.Starting
import ToolGate.Host.Utility.Words
import ToolGate.Host.Work
import ToolGate.Invocation
import ToolGate.Main
import ToolGate.Options.Grammar
import ToolGate.Options.Message
import ToolGate.Options.Reading
import ToolGate.Options.Word
import ToolGate.OsError
import ToolGate.Palette
import ToolGate.Path
import ToolGate.Platform
import ToolGate.Program.Normal
import ToolGate.Proofs.Color.Codes
import ToolGate.Proofs.Color.Presentation
import ToolGate.Proofs.CommandLine.InterpreterQuotes
import ToolGate.Proofs.CommandLine.Joining
import ToolGate.Proofs.CommandLine.PosixLines
import ToolGate.Proofs.CommandLine.PosixWords
import ToolGate.Proofs.CommandLine.ShellCommand
import ToolGate.Proofs.CommandLine.WindowsWords
import ToolGate.Proofs.Environment.Layers
import ToolGate.Proofs.Environment.Overlay
import ToolGate.Proofs.Environment.Sharing
import ToolGate.Proofs.Execution.ChildEnvironment
import ToolGate.Proofs.Execution.Children
import ToolGate.Proofs.Execution.Command
import ToolGate.Proofs.Execution.ConsoleUse
import ToolGate.Proofs.Execution.Echo
import ToolGate.Proofs.Execution.Endings
import ToolGate.Proofs.Execution.ExitStatus
import ToolGate.Proofs.Execution.FailFast
import ToolGate.Proofs.Execution.Lines
import ToolGate.Proofs.Execution.Requests
import ToolGate.Proofs.Execution.Trace
import ToolGate.Proofs.Execution.Variables
import ToolGate.Proofs.Options.CommandArguments
import ToolGate.Proofs.Options.CommandItems
import ToolGate.Proofs.Options.Meanings
import ToolGate.Proofs.Options.OptionWords
import ToolGate.Proofs.Options.Placement
import ToolGate.Proofs.Options.Recording
import ToolGate.Proofs.Options.Separators
import ToolGate.Proofs.Options.Steps
import ToolGate.Proofs.Options.Strictness
import ToolGate.Proofs.Program.Resolution
import ToolGate.Proofs.Program.NormalForm
import ToolGate.Proofs.Program.Meaning
import ToolGate.Proofs.Program.Locating
import ToolGate.Proofs.Program.Completeness
import ToolGate.Proofs.Program.DrivePaths
import ToolGate.Proofs.Root.Ancestors
import ToolGate.Proofs.Root.Search
import ToolGate.Proofs.Root.Sources
import ToolGate.Run
import ToolGate.Settings
import ToolGate.Step
import ToolGate.Task
import ToolGate.Text.Controls
import ToolGate.Text.Cut
import ToolGate.Text.Escaped
import ToolGate.Text.Hidden
import ToolGate.Text.Octets
import ToolGate.Text.Similarity
import ToolGate.Text.Styled
import ToolGate.WaitStatus
