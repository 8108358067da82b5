import ToolGate.Step
import ToolGate.Text.Cut

/-!
The actions: the fixed steps that check the formatting and lint the sources, and the run of a
single command by the same rules.
-/

namespace ToolGate

/-- What the program can be asked to do. -/
inductive Action where
  | exec
  | format
  | lint
  deriving DecidableEq, Repr

namespace Action

/-- All actions, in the order in which they are listed. -/
def all : List Action := [.exec, .format, .lint]

def name : Action → String
  | .exec => "exec"
  | .format => "format"
  | .lint => "lint"

def aliases : Action → List String
  | .exec => ["run"]
  | .format => ["fmt"]
  | .lint => []

def find? (name : String) : Option Action :=
  all.find? fun action => action.name == name || action.aliases.contains name

/-- The fixed steps of an action. A single command has none. -/
def steps : Action → List Step
  | .exec => []
  | .format => [
    { header := "rustfmt"
      commands := [
        ["rustfmt", "--check", "examples/dlint/main.rs"],
        ["rustfmt", "--check", "src/lib.rs"]] },
    { header := "deno fmt"
      commands := [["deno", "fmt", "--check", "benchmarks/benchmarks.ts"]] }]
  | .lint => [
    { header := "clippy"
      commands := [
        ["cargo", "clippy", "--all-targets", "--release", "--locked", "--", "-D",
          "clippy::all"]] },
    { header := "deno lint"
      commands := [["target/release/examples/dlint", "benchmarks/benchmarks.ts"]] }]

/-- Accepts an empty argument list only. -/
def expectNoArgs (action : String) (args : List String) : Except Failure Unit :=
  if args.isEmpty then .ok () else .error (.extraArguments action args)

/-- A variable written as a name, an equals sign and a value. The name is not empty and ends at
the first equals sign. -/
def readVariable (text : String) : Except Failure (String × String) :=
  match Text.cut '=' text.toList with
  | (name@(_ :: _), some value) => .ok (String.ofList name, String.ofList value)
  | _ => .error (.malformedVariable text)

/-- The environment that a list of variables stands for, in which the last value of a name counts.
The first malformed text is the one that is reported. -/
def readVariables (texts : List String) : Except Failure Environment :=
  (texts.mapM readVariable).map Environment.ofList

def execOptions (settings : Settings) (args : ExecArgs) (overlay : Environment) : RunOptions where
  quiet := args.quiet
  directory := some settings.root
  base := none
  overlay := some overlay
  shell := args.shellChoice

def runExec (inherited : Environment) (settings : Settings) (words : List String) :
    Task Failure Unit := do
  let args ← Task.ofExcept ((ExecArgs.parse words).mapError .arguments)
  let overlay ← Task.ofExcept (readVariables args.env)
  (runCommand inherited args.command (execOptions settings args overlay)).mapError .execution

/-- Asks the console to show the colours that the tools write. A console that cannot is good
enough, and only a failed call is an error. -/
def prepareConsole : Task Failure Unit := do
  let status ← Task.perform .enableConsole
  let status ← Task.ofExcept (status.mapError .console)
  Task.perform (.log ("ANSI console status: " ++ status.name))

def perform (inherited : Environment) (settings : Settings) (action : Action)
    (args : List String) : Task Failure Unit :=
  match action with
  | .exec => runExec inherited settings args
  | .format => do
    Task.ofExcept (expectNoArgs Action.format.name args)
    runSteps inherited settings Action.format.steps
  | .lint => do
    Task.ofExcept (expectNoArgs Action.lint.name args)
    prepareConsole
    runSteps inherited settings Action.lint.steps

end Action

end ToolGate
