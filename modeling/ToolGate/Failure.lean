import ToolGate.Options.Message
import ToolGate.ExecArgs
import ToolGate.Run
import ToolGate.Settings

/-!
Everything that can end an action early, with the text that a user gets and the code that the
program exits with.
-/

namespace ToolGate

/-- Why an action failed. -/
inductive Failure where
  /-- A command did not succeed. -/
  | execution (error : ExecutionError)
  /-- The console could not be prepared. -/
  | console (error : ConsoleError)
  /-- The arguments of a single command were refused. -/
  | arguments (error : Options.ParseError)
  /-- There is no usable root. -/
  | root (error : PathError)
  /-- An action that takes no arguments got some. -/
  | extraArguments (action : String) (args : List String)
  /-- A variable is not written as a name and a value. -/
  | malformedVariable (text : String)
  /-- There is no such action. -/
  | unknownAction (name : String) (known : List String)
  deriving DecidableEq, Repr

namespace Failure

/-- The text for the user: the message of a failure followed by those of its causes. -/
def chain : Failure → String
  | .execution error => error.chain
  | .console error =>
    "Could not enable ANSI escape sequences on the console: " ++ error.chain
  | .arguments error => error.message ExecArgs.grammar
  | .root error => error.chain
  | .extraArguments action args =>
    "'" ++ action ++ "' takes no arguments, got: " ++ String.intercalate " " args
  | .malformedVariable text =>
    "Invalid environment variable '" ++ text ++ "': expected KEY=VALUE"
  | .unknownAction name known =>
    "Unknown action '" ++ name ++ "'. Available actions: " ++ String.intercalate ", " known

/-- The exit code of the program: that of a failed command is its own, and any other failure
has 1. -/
def exitCode : Failure → Int
  | .execution error => error.exitCode
  | _ => 1

end Failure

end ToolGate
