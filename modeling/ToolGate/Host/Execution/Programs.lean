import ToolGate.Host.Execution.Children
import ToolGate.Host.Finding

/-!
Starting programs from the shell, each in a child of its own, and putting one in the place of the
shell.
-/

namespace ToolGate.Host.Execution

/-- The status that stands for a program that cannot be started: 127 for a missing one. -/
def startStatus (error : OsError) : Nat :=
  if [OsError.notFound, .notDirectory, .nameTooLong, .tooManyLinks].contains error then 127 else 126

/-- The image of a program at a path, or else the error. A text without an interpreter of its own is
read by the shell. -/
def loadImage (session : Session) (path : String) (words : List String) :
    Except OsError Loading.Image :=
  match Loading.load session.machine.files session.directory path words with
  | .error .badFormat => .ok (Loading.shellImage path words)
  | result => result

/-- Runs an image in a process of its own, or in that of the shell. -/
def launchImage (engine : Engine) (own : Bool) (image : Loading.Image) : Shell WaitStatus := do
  let session ← get
  let (number, machine) :=
    if own then session.machine.beginProcess session.number
    else (session.number, session.machine)
  let process : Process := {
    words := image.words
    definitions := session.exported
    directory := session.directory
    channels := session.channels
    number
    parent := if own then session.number else session.parent
    unnoticed := session.ignored }
  let (status, machine) := engine.launch image.program process machine
  set { session with machine := if own then machine.endProcess else machine }
  return status

/-- Runs a program at a path, and waits for its end. -/
def runProgram (engine : Engine) (path name : String) (args : List String) : Shell Nat := do
  Shell.forgetWaited
  let session ← get
  match loadImage session path (name :: args) with
  | .error error =>
    Shell.complain (name ++ ": " ++ Finding.reason error)
    return startStatus error
  | .ok image =>
    let status ← launchImage engine true image
    goOn engine
    report status

def becomeProgram (engine : Engine) (list name : String) (args : List String) : Shell Nat := do
  let session ← get
  let path : Except OsError String :=
    if name.toList.contains '/' then .ok name
    else Loading.search session.machine.files session.directory list name
  match path.bind fun path => loadImage session path (name :: args) with
  | .error error =>
    Shell.complain (name ++ ": " ++ Finding.reason error)
    throw (.exit (startStatus error))
  | .ok image => throw (.replaced (← launchImage engine false image))

end ToolGate.Host.Execution
