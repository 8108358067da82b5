import ToolGate.Action
import ToolGate.Invocation

/-!
The whole program: a command line is read, the action is found and performed, and its end becomes
a marker for the user and an exit code.
-/

namespace ToolGate.Gate

/-- Performs the requested action, after the request was put on record. The action is looked up
before the root of the project is. -/
def dispatch (surroundings : Surroundings) (palette : Palette) (invocation : Invocation) :
    Task Failure Unit := do
  Task.perform (.log invocation.record)
  match Action.find? invocation.action with
  | none => .fail (.unknownAction invocation.action (Action.all.map Action.name))
  | some action =>
    let settings ←
      (surroundings.loadSettings palette.enabled invocation.root).mapError .root
    action.perform surroundings.environment settings invocation.args
    Task.writeLine .out palette.ok

def report {ε : Type} (palette : Palette) (failure : Failure) : Task ε Unit := do
  Task.writeLine .err ("\n" ++ palette.paint .red "Error" ++ ": " ++ failure.chain)
  Task.writeLine .err palette.failed

/-- Answers a command line that is not accepted. Help and the version are what the user asked for;
everything else is a complaint. -/
def refuse {ε : Type} (surroundings : Surroundings) (error : Options.ParseError) :
    Task ε Int := do
  let stream := if error.refusal.isAnswer then Stream.out else Stream.err
  let text := (error.report Invocation.grammar).render surroundings.colorForced
  Task.perform (.write stream text)
  return error.exitCode

def serve {ε : Type} (surroundings : Surroundings) (invocation : Invocation) : Task ε Int := do
  let palette : Palette := ⟨surroundings.colorEnabled invocation.noColor⟩
  match ← (dispatch surroundings palette invocation).attempt with
  | .ok () => return 0
  | .error failure =>
    report palette failure
    return failure.exitCode

/-- The program. It ends with an exit code, whatever happens. -/
def program (surroundings : Surroundings) (words : List String) : Task Empty Int :=
  match Invocation.parse words with
  | .error error => refuse surroundings error
  | .ok invocation => serve surroundings invocation

end ToolGate.Gate
