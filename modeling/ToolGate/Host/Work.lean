import ToolGate.Host.Machine
import ToolGate.Host.Quotation

/-!
How the programs of the host work: each one knows its process, reads and writes its channels,
changes files, and ends with a code, at its end or before.
-/

namespace ToolGate.Host

/-- The machine that a program works on, and whether something that it wrote got lost. -/
structure Desk where
  machine : Machine
  lost : Bool := false

/-- An action of a program. It can end the program with a code. -/
abbrev Work : Type → Type := ReaderT Process (ExceptT Nat (StateM Desk))

/-- A program of the host: from its arguments to its code. -/
abbrev Utility : Type := List String → Work Nat

/-- A program of the host that runs other ones: from its arguments to its end. -/
abbrev Starter : Type := Launch → List String → Work WaitStatus

namespace Work

def process : Work Process := read

def name : Work String := do
  return (← process).words.headD ""

def ask {α : Type} (question : Machine → α) : Work α := do
  return question (← get).machine

def change (action : Machine → Machine) : Work Unit :=
  modify fun desk => { desk with machine := action desk.machine }

def write (number : Nat) (text : String) : Work Unit := do
  match (← process).channels.lookup number with
  | some channel => change fun machine => machine.write channel text
  | none => modify fun desk => { desk with lost := desk.lost || (number = 1 && !text.isEmpty) }

def say (text : String) : Work Unit := write 1 text

def mutter (text : String) : Work Unit := write 2 (text ++ "\n")

/-- Writes a line to the standard error output, after the name of the program. -/
def complain (text : String) : Work Unit := do
  mutter ((← name) ++ ": " ++ text)

def reason : OsError → String
  | .number value => OsError.numberText value
  | error => error.message

def blame (what path : String) (error : OsError) : Work Unit :=
  complain (what ++ " " ++ Quotation.inQuotes path ++ ": " ++ reason error)

def refuse {α : Type} (code : Nat) (text : String) : Work α := do
  complain text
  throw code

/-- Hints at the help text, and ends the program. -/
def hint {α : Type} (code : Nat) : Work α := do
  mutter ("Try '" ++ (← name) ++ " --help' for more information.")
  throw code

def misuse {α : Type} (code : Nat) (text : String) : Work α := do
  complain text
  hint code

def look {α : Type} (question : FileTree → Place → α) : Work α := do
  let process ← process
  ask fun machine => question machine.files process.directory

/-- What a program tells its user about its use. The host keeps the text in a file, in which `$0`
stands for the name that the program was called by. Without that file there is nothing to tell. -/
def usage (program : String) : Work String := do
  match ← look fun files _ => files.node? ["usr", "share", "help", program] with
  | some (.file text _) => return text.replace "$0" (← name)
  | _ => return ""

def edit (action : FileTree → FileTree) : Work Unit :=
  change fun machine => { machine with files := action machine.files }

def input : Work (Except OsError String) := do
  match (← process).channels.lookup 0 with
  | none => return .error (.number 9)
  | some .directory => return .error .isDirectory
  | some channel =>
    let (text, machine) ← ask fun machine => machine.drain channel
    change fun _ => machine
    return .ok text

def line : Work String := do
  let channel := (← process).channel 0
  let text ← ask fun machine => machine.waiting channel
  let chars := text.toList
  let before := chars.takeWhile (· != '\n')
  let line := chars.take (before.length + 1)
  change fun machine => machine.leave channel (String.ofList (chars.drop line.length))
  return String.ofList line

def content (path : String) : Work (Except OsError String) := do
  let process ← process
  let opened ← ask fun machine => machine.openIn process.channels process.directory path
  match opened with
  | .error error => return .error error
  | .ok (.directory, _) => return .error .isDirectory
  | .ok (channel, machine) =>
    let (text, machine) := machine.drain channel
    change fun _ => machine
    return .ok text

/-- The text of a file. A dash stands for the standard input. -/
def contentOrInput (path : String) : Work (Except OsError String) :=
  if path = "-" then input else content path

def save (path text : String) (opening : Machine.Opening) : Work (Except OsError Unit) := do
  let process ← process
  match ← ask fun machine =>
      machine.openOut process.channels process.directory path opening with
  | .error error => return .error error
  | .ok (channel, machine) =>
    change fun _ => machine.write channel text
    return .ok ()

/-- Performs an action for each of some texts. The greatest code counts. -/
def forAll (texts : List String) (action : String → Work Nat) : Work Nat := do
  return (← texts.mapM action).foldl max 0

/-- Runs a program to its end. Output that got lost makes it fail. -/
def run (work : Work WaitStatus) (lostCode : Nat) (process : Process) (machine : Machine) :
    WaitStatus × Machine :=
  let finish : Work WaitStatus := do
    let status ← try work catch code => pure (.exited code)
    if (← get).lost then
      complain ("write error: " ++ OsError.numberText 9)
      return .exited lostCode
    else return status
  let (result, desk) := StateT.run (ExceptT.run (finish process)) { machine }
  match result with
  | .ok status => (status, desk.machine)
  | .error code => (.exited code, desk.machine)

end Work

end ToolGate.Host
