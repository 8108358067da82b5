import ToolGate.Failure

/-!
Steps: named groups of commands that run one after the other until the first one fails.
-/

namespace ToolGate

/-- A named group of commands. -/
structure Step where
  header : String
  commands : List (List String)
  deriving DecidableEq, Repr

namespace Step

/-- How the commands of a step run: without an echo or a shell, from the root of the project. -/
def options (settings : Settings) : RunOptions :=
  (RunOptions.silent.inDirectory settings.root).withShell false

def runOne (inherited : Environment) (settings : Settings) (step : Step) (command : List String) :
    Task Failure Unit := do
  Task.perform (.log ("[" ++ step.header ++ "] running " ++ Text.quotedList command))
  (runCommand inherited command (options settings)).mapError .execution

def run (inherited : Environment) (settings : Settings) (step : Step) : Task Failure Unit := do
  Task.writeLine .out (settings.palette.header step.header)
  step.commands.forM (step.runOne inherited settings)

end Step

/-- Runs every command of every step. The first failure ends the run and is kept as it is. -/
def runSteps (inherited : Environment) (settings : Settings) (steps : List Step) :
    Task Failure Unit :=
  steps.forM (Step.run inherited settings)

end ToolGate
