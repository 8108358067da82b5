import ToolGate.Host.Execution.Opening
import ToolGate.Host.Utility

/-!
Running programs and scripts. The shell performs commands, which start programs, one of which is the
shell. What one level of nesting does is described for any engine; `engine` closes the circle, with
fuel for the depth of nesting.
-/

namespace ToolGate.Host.Execution

open Script

/-- How a round of a loop ends. -/
inductive Round where
  | complete (status : Nat)
  /-- The loop goes on with its next round. -/
  | cut
  /-- The loop is over. -/
  | left
  deriving DecidableEq, Repr

def round (action : Shell Nat) : Shell Round := do
  let before := (← get).loops
  Shell.adjust fun context => { context with loops := before + 1 }
  let result ← caught action
  Shell.adjust fun context => { context with loops := before }
  match result with
  | .ok status => return .complete status
  | .error (.leaveLoops 0) | .error (.leaveLoops 1) => return .left
  | .error (.leaveLoops (count + 1)) => throw (.leaveLoops count)
  | .error (.nextRound 0) | .error (.nextRound 1) => return .cut
  | .error (.nextRound (count + 1)) => throw (.nextRound count)
  | .error stop => throw stop

def performLoop (engine : Engine) (untilHolds : Bool) (condition body : Command) :
    Nat → Nat → Shell Nat
  | 0, _ => throw .outOfFuel
  | fuel + 1, status => do
    match ← round (guarding true (engine.perform condition)) with
    | .left => return 0
    | .cut => performLoop engine untilHolds condition body fuel status
    | .complete value =>
      if (value = 0) = untilHolds then return status
      else
        match ← round (engine.perform body) with
        | .left => return 0
        | .cut => performLoop engine untilHolds condition body fuel 0
        | .complete status => performLoop engine untilHolds condition body fuel status

def performEach (engine : Engine) (name : String) (body : Command) :
    List String → Nat → Shell Nat
  | [], status => return status
  | value :: rest, _ => do
    Shell.assign name value
    match ← round (engine.perform body) with
    | .left => return 0
    | .cut => performEach engine name body rest 0
    | .complete status => performEach engine name body rest status

def performChoice (engine : Engine) (subject : List Char) :
    List (List Word × Command) → Shell Nat
  | [] => return 0
  | (patterns, body) :: rest => do
    let fits ← patterns.anyM fun word => do
      return Pattern.isMatch (← Expansion.expandPattern (substitute engine) word) subject
    if fits then engine.perform body else performChoice engine subject rest

/-- Performs commands joined by bars, each in a copy of the shell. Each one runs to its end before
the next one reads what it wrote. -/
def performPipeline (engine : Engine) : List Command → Shell WaitStatus
  | [] => return .exited 0
  | [last] => apart engine (engine.perform last)
  | first :: rest => do
    let session ← get
    let (channel, machine) := session.machine.channel ""
    set { session with machine }
    let status ← apart engine do
      Shell.adjust (Context.connect · 1 channel)
      engine.perform first
    let _ ← report status
    Shell.withChannels do
      Shell.adjust (Context.connect · 0 channel)
      performPipeline engine rest

def performAll (engine : Engine) : List Command → Nat → Shell Nat
  | [], status => return status
  | command :: rest, _ => do
    let status ← engine.perform command
    performAll engine rest status

/-- Whether a failure of a command can end the shell by itself. That of a command with parts is the
matter of its parts. -/
def canEndShell : Command → Bool
  | .simple .. | .pipeline _ | .subshell .. => true
  | _ => false

def performParts (engine : Engine) : Command → Shell Nat
  | .simple line assignments words redirections =>
    performSimple engine line assignments words redirections
  | .pipeline commands => do report (← performPipeline engine commands)
  | .negated command => do
    let status ← guarding true (engine.perform command)
    return if status = 0 then 1 else 0
  | .both first second => do
    let status ← guarding true (engine.perform first)
    if status = 0 then engine.perform second else return status
  | .either first second => do
    let status ← guarding true (engine.perform first)
    if status = 0 then return status else engine.perform second
  | .sequence commands => performAll engine commands 0
  | .background command => do
    background engine command
    return 0
  | .subshell line body => do
    Shell.adjust fun context => { context with line }
    report (← apart engine (engine.perform body))
  | .conditional condition body otherwise => do
    let status ← guarding true (engine.perform condition)
    if status = 0 then engine.perform body
    else
      match otherwise with
      | some command => engine.perform command
      | none => return 0
  | .loop untilHolds condition body => performLoop engine untilHolds condition body roundLimit 0
  | .each line name words body => do
    Shell.adjust fun context => { context with line }
    let values ←
      match words with
      | some words => Expansion.expandWords (substitute engine) words
      | none => pure (← get).arguments
    performEach engine name body values 0
  | .choice line subject branches => do
    Shell.adjust fun context => { context with line }
    let text ← Expansion.expandText (substitute engine) subject
    performChoice engine text.toList branches
  | .define name body => do
    Shell.adjust fun context =>
      { context with
        functions := (name, body) :: context.functions.filter fun entry => entry.1 != name }
    return 0
  | .redirected line body redirections => do
    Shell.adjust fun context => { context with line }
    let redirected ← expandRedirections (substitute engine) redirections
    Shell.withChannels do
      if ← redirectAll redirected then engine.perform body else settle engine true 2

/-- Performs a command. A shell that only reads performs none. -/
def performOnce (engine : Engine) (command : Command) : Shell Nat := do
  let session ← get
  if session.has "noexec" then return session.status
  else settle engine (canEndShell command) (← performParts engine command)

def launchOnce (engine : Engine) (name : String) (process : Process) (machine : Machine) :
    WaitStatus × Machine :=
  if name = "sh" then runShell engine process machine
  else Utility.launch engine.launch name process machine

def engine : Nat → Engine
  | 0 => {
    perform := fun _ => throw .outOfFuel
    launch := fun _ _ machine => (.exited 126, machine) }
  | fuel + 1 => {
    perform := fun command => performOnce (engine fuel) command
    launch := fun name process machine => launchOnce (engine fuel) name process machine }

def depthLimit : Nat := 10000

def launch : String → Process → Machine → WaitStatus × Machine :=
  (engine depthLimit).launch

end ToolGate.Host.Execution
