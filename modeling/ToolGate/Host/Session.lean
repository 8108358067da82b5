import ToolGate.Host.Machine
import ToolGate.Host.Numeral
import ToolGate.Host.Script
import ToolGate.WaitStatus

/-!
A session of the shell: its variables, functions, jobs and channels, and how it comes to its end.
The actions of the shell are functions on the session that can stop early.
-/

namespace ToolGate.Host

/-- A variable of the shell. A variable without a value can still be marked. -/
structure Variable where
  value : Option String
  exported : Bool := false
  readOnly : Bool := false
  deriving DecidableEq, Repr

/-- Why the shell does not go on with the next command. -/
inductive Stop where
  | exit (status : Nat)
  /-- An error ends the shell, unless a command that runs others goes on after it. -/
  | failure
  /-- A signal ended the shell, and every part of it that runs on its own. -/
  | killed (signal : Nat)
  /-- Another program took the place of the shell, and ended. -/
  | replaced (status : WaitStatus)
  | leaveLoops (count : Nat)
  | nextRound (count : Nat)
  | returned (status : Nat)
  | outOfFuel
  deriving DecidableEq, Repr

/-- How far the options among some arguments have been read: the argument that comes next, counted
from one, and how many characters of the one before it have been read, if it is not done. -/
structure Scan where
  position : Nat := 1
  offset : Option Nat := none
  deriving DecidableEq, Repr

/-- What the running functions replaced: a variable, or all switches. -/
inductive Replaced where
  | variable (name : String) (before : Option Variable)
  | switches (before : List String)

/-- What a shell keeps, the machine that it runs on and its jobs apart. -/
structure Context where
  /-- What messages begin with, and the value of `$0`. -/
  name : String
  arguments : List String
  /-- The number of the process, and that of the process that started it. -/
  number : Nat
  parent : Nat
  /-- Whether this is a copy of the shell that the number belongs to. -/
  isCopy : Bool := false
  directory : Place
  /-- The path of the working directory as it was reached, empty if it is not known. -/
  path : String
  channels : Channels
  bindings : List (String × Variable)
  functions : List (String × Script.Command) := []
  aliases : List (String × String) := []
  /-- The programs that have been found, with their paths. -/
  hashed : List (String × String) := []
  /-- The line of the command that runs. -/
  line : Nat := 1
  /-- The command of the shell that runs, as messages name it. -/
  command : String := ""
  /-- The status of the last command. -/
  status : Nat := 0
  /-- The status of the last command substitution since the command began. -/
  substituted : Nat := 0
  /-- How many loops are around the command that runs. -/
  loops : Nat := 0
  /-- The names of the switches that are on. -/
  switches : List String := []
  /-- Whether the status of the command that runs is looked at by another one. -/
  guarded : Bool := false
  /-- What the running functions replaced, those that run latest first. -/
  replaced : List (List Replaced) := []
  /-- The scripts that were set for signals; number 0 is the end of the shell. -/
  traps : List (Nat × String) := []
  /-- The signals that have arrived, and whose scripts have not run yet. -/
  pending : List Nat := []
  /-- The signals that the shell was started not to notice. -/
  unnoticed : List Nat := []
  scan : Scan := {}
  /-- The permissions that new files do not get. -/
  mask : Nat := 0o022
  /-- The status that `exit` gives where it is not told any, while the script for the end runs. -/
  endStatus : Option Nat := none
  /-- The number of the last command in the background. -/
  lastJob : Option Nat := none
  /-- Whether something that was written got lost. -/
  lost : Bool := false

/-- Commands in the background that take time, and have not been performed yet. -/
structure Delayed where
  context : Context
  command : Script.Command
  /-- When they began. -/
  start : Nat
  /-- When they will be done. -/
  finish : Nat

/-- Commands in the background. -/
structure Job where
  index : Nat
  number : Nat
  /-- The status, if the job is done. -/
  status : Option WaitStatus
  delayed : Option Delayed
  /-- Whether the status has been asked for. -/
  waited : Bool := false

/-- The state of a shell. The jobs stand latest first. -/
structure Session extends Context where
  machine : Machine
  jobs : List Job := []

abbrev Shell : Type → Type := ExceptT Stop (StateM Session)

/-- The switches of the shell in their order, with their letters if they have any. -/
def switchTable : List (String × Option Char) := [
  ("errexit", some 'e'), ("noglob", some 'f'), ("ignoreeof", some 'I'), ("interactive", some 'i'),
  ("monitor", some 'm'), ("noexec", some 'n'), ("stdin", some 's'), ("xtrace", some 'x'),
  ("verbose", some 'v'), ("vi", some 'V'), ("emacs", some 'E'), ("noclobber", some 'C'),
  ("allexport", some 'a'), ("notify", some 'b'), ("nounset", some 'u'), ("privileged", some 'p'),
  ("nolog", none), ("debug", none)]

def switchOf? (letter : Char) : Option String :=
  (switchTable.find? fun entry => entry.2 = some letter).map Prod.fst

/-- The row of a name in a table with some rows. What such a table holds is listed row by row. -/
def rowOf (rows : Nat) (name : String) : Nat :=
  match name.toList with
  | first :: rest => (first :: rest).foldl (fun sum c => sum + c.toNat) (16 * first.toNat) % rows
  | [] => 0

namespace Context

def has (context : Context) (name : String) : Bool := context.switches.contains name

/-- Sets a switch. Of the two editors, one at most is in use. -/
def switch (context : Context) (name : String) (on : Bool) : Context :=
  let others := context.switches.filter fun other =>
    other != name && !(on && (name, other) = ("vi", "emacs")) &&
      !(on && (name, other) = ("emacs", "vi"))
  { context with switches := if on then name :: others else others }

/-- The letters of the switches that are on, those of later switches first. -/
def letters (context : Context) : String :=
  String.ofList (switchTable.reverse.filterMap fun (name, letter) =>
    if context.has name then letter else none)

def valueOf? (context : Context) (name : String) : Option String :=
  (context.bindings.lookup name).bind Variable.value

/-- The bindings that are handed to programs, as texts of the form `NAME=value`. -/
def exported (context : Context) : List String :=
  let rows := context.bindings.mergeSort fun a b => rowOf 39 a.1 ≤ rowOf 39 b.1
  rows.filterMap fun (name, entry) =>
    match entry with
    | { value := some value, exported := true, .. } => some (name ++ "=" ++ value)
    | _ => none

/-- The signals that a child of the shell does not notice. -/
def ignored (context : Context) : List Nat :=
  context.unnoticed ++ (context.traps.filter fun entry => entry.2.isEmpty).map Prod.fst

def put (context : Context) (name : String) (value : Variable) : Context :=
  let bindings :=
    if (context.bindings.lookup name).isSome then
      context.bindings.map fun entry => if entry.1 = name then (name, value) else entry
    else context.bindings ++ [(name, value)]
  { context with bindings }

def erase (context : Context) (name : String) : Context :=
  { context with bindings := context.bindings.filter fun entry => entry.1 != name }

def connect (context : Context) (number : Nat) (channel : Channel) : Context :=
  { context with
    channels := (number, channel) :: context.channels.filter fun entry => entry.1 != number }

def disconnect (context : Context) (number : Nat) : Context :=
  { context with channels := context.channels.filter fun entry => entry.1 != number }

def channel? (context : Context) (number : Nat) : Option Channel :=
  context.channels.lookup number

end Context

namespace Shell

def adjust (change : Context → Context) : Shell Unit :=
  modify fun session => { session with toContext := change session.toContext }

def write (number : Nat) (text : String) : Shell Unit :=
  modify fun session =>
    match session.channel? number with
    | some channel => { session with machine := session.machine.write channel text }
    | none => if text.isEmpty then session else { session with lost := true }

def say (text : String) : Shell Unit := write 1 (text ++ "\n")

/-- Writes a message, after the name of the shell, the number of the line and the command of the
shell that runs, if there is one. -/
def complain (text : String) : Shell Unit := do
  let session ← get
  let command := if session.command.isEmpty then "" else session.command ++ ": "
  let lost := session.lost
  write 2 (session.name ++ ": " ++ toString session.line ++ ": " ++ command ++ text ++ "\n")
  modify fun session => { session with lost }

def refuse {α : Type} (text : String) : Shell α := do
  complain text
  throw .failure

/-- Performs an action whatever has become of another one before it. -/
def afterwards {α : Type} (action : Shell α) (last : Shell Unit) : Shell α := do
  let result : Except Stop α ← try pure (.ok (← action)) catch stop => pure (.error stop)
  last
  match result with
  | .ok value => return value
  | .error stop => throw stop

/-- Notices what changes with the value of a variable: paths have to be looked for again, or
options. -/
def notice (name : String) : Shell Unit := do
  if name = "PATH" then adjust fun context => { context with hashed := [] }
  else if name = "OPTIND" then
    let text := ((← get).valueOf? name).getD ""
    match (Numeral.whole? 10 text).filter (0 ≤ ·) with
    | some value => adjust fun context => { context with scan := { position := max 1 value.toNat } }
    | none => if !text.isEmpty then refuse ("Illegal number: " ++ text)

/-- Sets a variable. One that is read-only ends the shell. -/
def assign (name value : String) : Shell Unit := do
  let session ← get
  let before := (session.bindings.lookup name).getD { value := none }
  if before.readOnly then refuse (name ++ ": is read only")
  else
    let exported := before.exported || session.has "allexport"
    adjust fun context => context.put name { before with value := some value, exported }
    notice name

/-- Frees the place of a job whose status has been asked for, since a new process takes it. -/
def forgetWaited : Shell Unit :=
  modify fun session =>
    let isOver (job : Job) : Bool := job.waited && job.status.isSome
    match (session.jobs.reverse.find? isOver) with
    | some ended =>
      { session with jobs := session.jobs.filter fun job => job.index != ended.index }
    | none => session

/-- Performs an action under the name of a command, and takes the name back in any case. -/
def named {α : Type} (name : String) (action : Shell α) : Shell α := do
  let before := (← get).command
  adjust fun context => { context with command := name }
  afterwards action (adjust fun context => { context with command := before })

/-- Performs an action with other channels, and connects the old ones again in any case. -/
def withChannels {α : Type} (action : Shell α) : Shell α := do
  let before := (← get).channels
  afterwards action (adjust fun context => { context with channels := before })

end Shell

end ToolGate.Host
