import ToolGate.CommandLine.VariableName
import ToolGate.Host.Execution.Calling

/-!
How a shell begins: the variables that it starts with, and what its command line asks for.
-/

namespace ToolGate.Host.Execution

open CommandLine (isName)
open Script

def ownVariables : List (String × Variable) := [
  ("IFS", { value := some " \t\n" }), ("PATH", { value := some Loading.commandList }),
  ("PS1", { value := some "# " }), ("PS2", { value := some "> " }), ("PS4", { value := some "+ " }),
  ("OPTIND", { value := some "1" })]

/-- Gives a variable a value, and keeps its marks. -/
def Context.setValue (context : Context) (name value : String) : Context :=
  let before := (context.bindings.lookup name).getD { value := none }
  context.put name { before with value := some value }

/-- The variables that a process hands to a shell, the later ones of a name in the place of the
earlier ones. -/
def handed (process : Process) : List (String × Variable) :=
  process.definitions.filterMap fun text =>
    match Builtin.definition text with
    | (name, some value) =>
      if isName name.toList then some (name, { value := some value, exported := true }) else none
    | _ => none

/-- The path of the working directory, as a shell knows it at its beginning: the one that it is
handed, if that leads there. -/
def startPath (process : Process) (machine : Machine) (handed : Option String) : String :=
  let isHere (path : String) : Bool :=
    path.startsWith "/" &&
      match machine.files.find [] path with
      | .ok (place, .directory) => place = process.directory
      | _ => false
  match machine.files.node? process.directory, handed with
  | none, _ => ""
  | some _, some path => if isHere path then path else process.directory.text
  | some _, none => process.directory.text

def startSession (process : Process) (machine : Machine) : Session :=
  let context : Context := {
    name := process.words.headD "sh"
    arguments := []
    number := process.number
    parent := process.parent
    directory := process.directory
    path := ""
    channels := process.channels
    bindings := ownVariables
    line := 0
    unnoticed := process.unnoticed }
  let context := (handed process).foldl (fun context entry => context.put entry.1 entry.2) context
  let context := Context.setValue context "IFS" " \t\n"
  let context := Context.setValue context "OPTIND" "1"
  let context := Context.setValue context "PPID" (toString process.parent)
  let path := startPath process machine (context.valueOf? "PWD")
  let context := { context with path }
  { context.put "PWD" { value := some path, exported := true } with machine }

/-- Sets switches by the letters of one word of the command line. Two letters are no switches: one
for a script in the next argument, and one for a shell at the beginning of a session. The results
say whether there is such a script, and what is left of the arguments. -/
def setStartLetters (on : Bool) : Bool → List Char → List String → Shell (Bool × List String)
  | script, [], rest => return (script, rest)
  | script, letter :: letters, rest => do
    match letter with
    | 'c' => setStartLetters on true letters rest
    | 'l' => setStartLetters on script letters rest
    | 'o' =>
      Builtin.setNamed on rest.head?
      setStartLetters on script letters rest.tail
    | _ =>
      Builtin.setLetter on letter
      setStartLetters on script letters rest

/-- Reads the switches on a command line. The results say whether a script comes next, and what is
left of the arguments. The fuel is the number of arguments and one more. -/
def readSwitches : Nat → Bool → List String → Shell (Bool × List String)
  | 0, script, rest => return (script, rest)
  | _, script, [] => return (script, [])
  | fuel + 1, script, arg :: rest => do
    match arg.toList with
    | ['-'] | ['-', '-'] => return (script, rest)
    | '-' :: letters =>
      let (script, rest) ← setStartLetters true script letters rest
      readSwitches fuel script rest
    | '+' :: letters =>
      let (script, rest) ← setStartLetters false script letters rest
      readSwitches fuel script rest
    | _ => return (script, arg :: rest)

/-- Names the shell and its arguments. -/
def setOperands (operands : List String) : Shell Unit :=
  Shell.adjust fun context =>
    match operands with
    | name :: arguments => { context with name, arguments }
    | [] => context

def performInput (engine : Engine) : Shell Nat := do
  let session ← get
  let (text, machine) := session.machine.drain ((session.channel? 0).getD .nothing)
  modify fun session => { session with machine }
  performFile engine text

/-- Performs what the command line asks for: a script in an argument, one in a file, or one on the
standard input. -/
def performStart (engine : Engine) (words : List String) : Shell Nat := do
  let (script, rest) ← readSwitches (words.length + 1) false words
  if (← get).has "interactive" then
    Shell.complain "can't access tty; job control turned off"
  match script, rest with
  | true, [] => Shell.refuse "-c requires an argument"
  | true, source :: operands =>
    setOperands operands
    performSource engine source
  | false, [] =>
    Shell.adjust (Context.switch · "stdin" true)
    performInput engine
  | false, path :: arguments =>
    let session ← get
    if session.has "stdin" then
      Shell.adjust fun context => { context with arguments := path :: arguments }
      performInput engine
    else
      match session.machine.files.find session.directory path with
      | .ok (_, node) =>
        setOperands (path :: arguments)
        performFile engine (match node with | .file content _ => content | _ => "")
      | .error error => Shell.refuse ("cannot open " ++ path ++ ": " ++ openReason false error)

def runShell (engine : Engine) (process : Process) (machine : Machine) : WaitStatus × Machine :=
  let action : Shell Nat := do
    let session ← get
    if session.path.isEmpty then
      let name := session.name
      Shell.adjust fun context => { context with name := "sh" }
      Shell.complain ("getcwd() failed: " ++ OsError.numberText 2)
      Shell.adjust fun context => { context with name }
    performStart engine process.words.tail
  finishSession engine (startSession process machine) action

end ToolGate.Host.Execution
