import ToolGate.Options.Message
import ToolGate.Text.Escaped

/-!
The command line of the whole program: options, an action, and the action's arguments.
-/

namespace ToolGate

/-- A request for an action. -/
structure Invocation where
  /-- The root of the project, if it was chosen. -/
  root : Option String
  noColor : Bool
  action : String
  args : List String
  deriving DecidableEq, Repr

namespace Invocation

open Options

/-- The record that is left of an accepted request, with all that it says. -/
def record (invocation : Invocation) : String :=
  "CLI args parsed: Cli \x7b root: " ++ Text.quotedOption invocation.root ++ ", no_color: " ++
    toString invocation.noColor ++ ", action: " ++ Text.quoted invocation.action ++ ", args: " ++
    Text.quotedList invocation.args ++ " \x7d"

def grammar : Grammar where
  command := "devtask"
  version := "0.1.0"
  about := some ("Format and lint gate for the dlint workspace: runs external tools and " ++
    "propagates their exit codes.")
  leading := [
    { name := "ACTION", required := true, repeated := false
      about := "The action to perform" }]
  trailing :=
    { name := "ARGS", required := false, repeated := true
      about := "Arguments for the action. Only \x60exec\x60 takes any" }
  options := [
    { long := "root", kind := .value "PATH" false false
      about := "Project root. Defaults to \x60DEVTASK_ROOT\x60, then the nearest directory " ++
        "with a \x60Cargo.toml\x60" },
    { long := "no-color", kind := .switch
      about := "Print status markers without ANSI colors (same as setting \x60NO_COLOR\x60)" },
    { long := "help", short := some 'h', kind := .help, about := "Print help" },
    { long := "version", short := some 'V', kind := .version, about := "Print version" }]
  conflicts := []
  helpWhenEmpty := true

def ofReading (reading : Reading) : Invocation where
  root := (reading.values "root").head?
  noColor := reading.has "no-color"
  action := reading.leading.headD ""
  args := reading.trailing

def parse (words : List String) : Except ParseError Invocation :=
  (grammar.read words).map ofReading

end Invocation

end ToolGate
