import ToolGate.Host.Builtin.Signals
import ToolGate.Host.Script.Reading

/-!
Performing scripts line by line. What a command is and how programs run is given by an engine, so
that the parts of the execution can be described one after the other.
-/

namespace ToolGate.Host

/-- How commands are performed, and how programs of the host run to their end. -/
structure Engine where
  /-- Performs a command and gives its status. -/
  perform : Script.Command → Shell Nat
  /-- Runs a program. -/
  launch : Launch

namespace Execution

open Script

/-- How many commands a script may have, and how many rounds a loop. -/
def roundLimit : Nat := 1000000

/-- Performs the lines of a script one after the other. What comes before a mistake still runs. The
lines are shown as they are read if the shell is asked for that. -/
def performLines (engine : Engine) (shown : Bool) : Nat → Cursor → Nat → Shell Nat
  | 0, _, _ => throw .outOfFuel
  | fuel + 1, cursor, status => do
    let session ← get
    let showLines (rest : List Char) : Shell Unit := do
      if shown && session.has "verbose" then
        Shell.write 2 (String.ofList (cursor.rest.take (cursor.rest.length - rest.length)))
    match readLine.run { cursor with aliases := session.aliases } with
    | .error (line, mistake) =>
      showLines []
      Shell.adjust fun context => { context with line }
      Shell.refuse mistake.message
    | .ok (none, next) =>
      showLines next.rest
      return status
    | .ok (some (.sequence []), next) =>
      showLines next.rest
      performLines engine shown fuel next status
    | .ok (some command, next) =>
      showLines next.rest
      let status ← engine.perform command
      performLines engine shown fuel next status

def performSource (engine : Engine) (source : String) : Shell Nat :=
  performLines engine false roundLimit { rest := source.toList, line := 1 } 0

def performFile (engine : Engine) (content : String) : Shell Nat :=
  performLines engine true roundLimit { rest := content.toList, line := 1 } 0

/-- Performs an action whose status is looked at by another command, or is not. -/
def guarding (guarded : Bool) (action : Shell Nat) : Shell Nat := do
  let before := (← get).guarded
  Shell.adjust fun context => { context with guarded }
  Shell.afterwards action (Shell.adjust fun context => { context with guarded := before })

def record (status : Nat) : Shell Unit :=
  Shell.adjust fun context => { context with status }

/-- Runs the script of a signal. The status is as before after it, and it counts for a script that
ends the shell. -/
def runTrap (engine : Engine) (status : Nat) (script : String) : Shell Unit := do
  let before := (← get).endStatus
  Shell.adjust fun context => { context with endStatus := some status }
  let _ ← Shell.afterwards (guarding false (performSource engine script))
    (Shell.adjust fun context => { context with endStatus := before })
  record status

/-- Runs the scripts of the signals that have arrived. -/
def attend (engine : Engine) : Shell Unit := do
  let session ← get
  unless session.pending.isEmpty do
    Shell.adjust fun context => { context with pending := [] }
    session.pending.forM fun signal =>
      match session.traps.lookup signal with
      | some script => runTrap engine session.status script
      | none => return

/-- Records a status and runs the scripts of signals. A failure that counts and that nothing looks
at ends the shell, if it is to. -/
def settle (engine : Engine) (counts : Bool) (status : Nat) : Shell Nat := do
  record status
  attend engine
  let session ← get
  if counts && session.has "errexit" && !session.guarded && status != 0 then
    throw (.exit status)
  else return status

/-- The status of a shell that has stopped, if it ends by itself. -/
def ownStatus? : Except Stop Nat → Option Nat
  | .ok status | .error (.exit status) | .error (.returned status) => some status
  | .error .failure | .error .outOfFuel => some 2
  | .error (.leaveLoops _) | .error (.nextRound _) => some 0
  | .error (.killed _) | .error (.replaced _) => none

def endOf (result : Except Stop Nat) : WaitStatus :=
  match result with
  | .error (.killed signal) => .killed signal
  | .error (.replaced status) => status
  | result => .exited ((ownStatus? result).getD 0)

/-- Takes what has become of an action as a value. -/
def caught {α : Type} (action : Shell α) : Shell (Except Stop α) := do
  try return .ok (← action) catch stop => return .error stop

/-- Performs an action as a shell does that ends after it: the script that was set for the end runs,
unless a signal or another program has ended the shell. -/
def untilEnd (engine : Engine) (action : Shell Nat) : Shell WaitStatus := do
  let result ← caught action
  match ownStatus? result, (← get).traps.lookup 0 with
  | some status, some script =>
    record status
    Builtin.setTrap 0 none
    let result ← caught do
      runTrap engine status script
      return status
    return endOf result
  | _, _ => return endOf result

end Execution

end ToolGate.Host
