import ToolGate.CommandLine.Quoting
import ToolGate.Path
import ToolGate.Program.Normal
import ToolGate.Task
import ToolGate.Text.Escaped

/-!
Running one command to its end. The command is echoed as a command line, started directly or
through the shell with a merged environment, waited for without a time limit, and its end is
classified: only an exit with code 0 is a success.
-/

namespace ToolGate

/-- How a command is to be run. What is left out is the caller's: its working directory, its
environment, and the platform's choice about the shell. -/
structure RunOptions where
  /-- Suppresses the echo of the command line. -/
  quiet : Bool := false
  /-- The working directory of the command. -/
  directory : Option String := none
  /-- The environment that replaces the inherited one. -/
  base : Option Environment := none
  /-- Variables that are laid over the environment. -/
  overlay : Option Environment := none
  /-- Whether the command goes through the shell. -/
  shell : Option Bool := none
  deriving DecidableEq

namespace RunOptions

/-- Everything left to the caller's surroundings, with an echo. -/
def default : RunOptions := {}

def silent : RunOptions := { quiet := true }

def inDirectory (options : RunOptions) (directory : String) : RunOptions :=
  { options with directory := some directory }

def withShell (options : RunOptions) (shell : Bool) : RunOptions :=
  { options with shell := some shell }

def withOverlay (options : RunOptions) (overlay : Environment) : RunOptions :=
  { options with overlay := some overlay }

def usesShell (options : RunOptions) : Bool :=
  options.shell.getD Platform.host.usesShell

end RunOptions

/-- Why a command did not succeed. -/
inductive ExecutionError where
  /-- There is no program to run. -/
  | emptyCommand
  /-- The process could not be started. -/
  | spawn (command : String) (cause : OsError)
  /-- The process exited with a code other than 0. -/
  | nonZeroExit (command : String) (code : Int)
  /-- The process ended without an exit code. -/
  | terminated (command : String) (status : WaitStatus)
  deriving DecidableEq, Repr

namespace ExecutionError

def message : ExecutionError → String
  | .emptyCommand => "No command specified to run."
  | .spawn command cause =>
    "Command '" ++ command ++ "' could not be executed: " ++ cause.message
  | .nonZeroExit command code =>
    "Command '" ++ command ++ "' exited with code " ++ toString code ++ "."
  | .terminated command status =>
    "Command '" ++ command ++ "' was terminated without an exit code (" ++ status.describe ++ ")."

/-- The message followed by that of the cause, which the message of a failed start also holds. -/
def chain : ExecutionError → String
  | error@(.spawn _ cause) => error.message ++ ": " ++ cause.message
  | error => error.message

/-- The code that the caller exits with after this error: the command's own code, 128 and the
number of the signal that killed it, and 1 for everything else. -/
def exitCode : ExecutionError → Int
  | .nonZeroExit _ code => code
  | .terminated _ status =>
    match status.signal? with
    | some signal => 128 + (signal : Int)
    | none => 1
  | _ => 1

end ExecutionError

/-- The words of a command: its program, simplified, and its arguments. -/
def commandWords (program : String) (args : List String) : List String :=
  normalizeProgram Platform.host program :: args

/-- The file that is started for a program. A relative path with more than one component is seen
from the working directory of the command, if it has one of its own; anything else is left as it
is, and a bare name is looked up by the system. -/
def locateProgram (program : String) (directory : Option String) : String :=
  match directory with
  | some directory =>
    if !Path.isAbsolute program.toList && 1 < (Path.components program.toList).length then
      Path.join directory program
    else program
  | none => program

/-- The process that runs a command with the given words. The shell gets the command line as one
argument. -/
def spawnRequest (inherited : Environment) (words : List String) (options : RunOptions) :
    SpawnRequest :=
  let environment := inherited.merge options.base options.overlay
  if options.usesShell then
    { program := "/bin/sh"
      args := ["-c", CommandLine.join Platform.host words]
      environment
      directory := options.directory }
  else
    { program := locateProgram (words.headD "") options.directory
      args := words.tail
      environment
      directory := options.directory }

def spawnRecord (line : String) (options : RunOptions) (request : SpawnRequest) : String :=
  "Spawning '" ++ line ++ "' (shell: " ++ toString options.usesShell ++ ", cwd: " ++
    Text.quotedOption options.directory ++ ", " ++ toString request.environment.size ++ " env vars)"

/-- The result that the reply to a start stands for. -/
def classify (line : String) : Except OsError WaitStatus → Except ExecutionError Unit
  | .error cause => .error (.spawn line cause)
  | .ok status =>
    match status.exitCode? with
    | some 0 => .ok ()
    | some code => .error (.nonZeroExit line code)
    | none => .error (.terminated line status)

/-- Runs a command to its end. The first argument is the program. -/
def runCommand (inherited : Environment) (args : List String) (options : RunOptions) :
    Task ExecutionError Unit :=
  match args with
  | [] => .fail .emptyCommand
  | program :: rest => do
    let words := commandWords program rest
    let line := CommandLine.join Platform.host words
    let request := spawnRequest inherited words options
    unless options.quiet do
      Task.writeLine .out line
    Task.perform (.log (spawnRecord line options request))
    let reply ← Task.perform (.start request)
    Task.ofExcept (classify line reply)

end ToolGate
