import ToolGate.Host.Builtin.Jobs
import ToolGate.Host.Execution.Lines

/-!
The children of the shell: copies of it that perform commands on their own, and commands in the
background. A command in the background that takes time is put off until that time has passed, or
until the shell waits for it; any other one is done at once.
-/

namespace ToolGate.Host.Execution

open Script

/-- Meets the signals that have been sent to the shell while it waited. -/
def meetSignals : Shell Unit := do
  let session ← get
  unless session.isCopy do
    let machine := session.machine
    let (mine, others) := machine.signals.partition fun entry => entry.1 = session.number
    set { session with machine := { machine with signals := others } }
    mine.forM fun (_, signal) => Builtin.meet signal

/-- The context of a copy of the shell. Scripts for signals are gone, but signals that are not
noticed stay so. -/
def copyOf (context : Context) : Context :=
  { context with
    isCopy := true
    traps := context.traps.filter fun entry => entry.2.isEmpty
    pending := []
    endStatus := none }

/-- The signals whose effect on a child is not spoken of. -/
def silentSignals : List Nat := [2, 13]

/-- Says how a child has ended, if a signal did that, and gives the status for it. -/
def report (status : WaitStatus) : Shell Nat := do
  match status.exitCode?, status.signal? with
  | some code, _ => return code
  | none, some signal =>
    unless silentSignals.contains signal do Shell.write 2 (Job.signalText signal ++ "\n")
    return 128 + signal
  | none, none => return 0

/-- The commands that have been put off, in the order in which they will be done. -/
def delayedJobs (session : Session) : List (Job × Delayed) :=
  (session.jobs.filterMap fun job => job.delayed.map fun delayed => (job, delayed)).mergeSort
    fun a b => a.2.finish ≤ b.2.finish

/-- Runs a session to its end, and with it its commands in the background. -/
def finishSession (engine : Engine) (session : Session) (action : Shell Nat) :
    WaitStatus × Machine :=
  let (result, session) := ((untilEnd engine action).run).run session
  let status :=
    match result with
    | .ok status => status
    | .error _ => .exited 2
  let clock := session.machine.clock
  let machine := (delayedJobs session).foldl (fun machine (_, delayed) =>
    let copy : Session :=
      { delayed.context with machine := { machine with clock := delayed.start } }
    let (_, session) := ((untilEnd engine (engine.perform delayed.command)).run).run copy
    session.machine) session.machine
  (status, { machine with clock })

/-- Lets a command run that has been put off, and records how it has ended. -/
def runDelayed (engine : Engine) (job : Job) (delayed : Delayed) : Shell Unit :=
  modify fun session =>
    let copy : Session :=
      { delayed.context with machine := { session.machine with clock := delayed.start } }
    let (status, machine) := finishSession engine copy (engine.perform delayed.command)
    { session with
      machine := { machine with clock := max machine.clock session.machine.clock }
      jobs := session.jobs.map fun other =>
        if other.index = job.index then { job with status := some status, delayed := none }
        else other }

/-- Lets the commands run that will be done up to a moment. -/
def catchUp (engine : Engine) (moment : Nat) : Shell Unit := do
  let due := (delayedJobs (← get)).filter fun entry => entry.2.finish ≤ moment
  due.forM fun (job, delayed) => runDelayed engine job delayed

/-- Goes on after a child has ended: what would have happened in the meantime happens. -/
def goOn (engine : Engine) : Shell Unit := do
  catchUp engine (← get).machine.clock
  meetSignals

/-- Performs an action in a copy of the shell. Its effects on files and channels stay. -/
def apart (engine : Engine) (action : Shell Nat) : Shell WaitStatus := do
  Shell.forgetWaited
  let before ← get
  let copy : Session := { copyOf before.toContext with machine := before.machine }
  let (status, machine) := finishSession engine copy action
  set { before with machine }
  goOn engine
  return status

def background (engine : Engine) (command : Command) : Shell Unit := do
  Shell.forgetWaited
  let session ← get
  let context := { (copyOf session.toContext).connect 0 .nothing with
    guarded := false
    unnoticed := Builtin.unnoticedBehind ++ session.unnoticed }
  let copy : Session := { context with machine := session.machine }
  let (status, machine) := finishSession engine copy (engine.perform command)
  let taken := session.jobs.map Job.index
  let index := ((List.range (taken.length + 1)).map (· + 1)).find? fun index =>
    !(taken.contains index)
  let number := session.machine.lastNumber + 1
  let start := session.machine.clock
  let isDone := machine.clock = start
  let job : Job := {
    index := index.getD 1
    number
    status := if isDone then some status else none
    delayed :=
      if isDone then none else some { context, command, start, finish := machine.clock } }
  let machine := if isDone then machine else session.machine
  set { session with
    machine := { machine with lastNumber := max machine.lastNumber number }
    jobs := job :: session.jobs
    lastJob := some number }
  goOn engine

def markWaited (index : Nat) : Shell Unit :=
  modify fun session =>
    { session with
      jobs := session.jobs.map fun job =>
        if job.index = index then { job with waited := true } else job }

def await (engine : Engine) (index : Nat) : Shell Nat := do
  let find (session : Session) : Option Job := session.jobs.find? fun job => job.index = index
  match (find (← get)).bind Job.delayed with
  | some delayed =>
    modify fun session =>
      let machine := session.machine
      { session with machine := { machine with clock := max machine.clock delayed.finish } }
    goOn engine
  | none => pure ()
  markWaited index
  match (find (← get)).bind Job.status with
  | some status => report status
  | none => return 0

/-- Waits for jobs: for all of them, or for those that are named. The status is that of the last
one. -/
def wait (engine : Engine) : Builtin := fun args => do
  let names ← Builtin.operands args
  if names.isEmpty then
    let last := (delayedJobs (← get)).foldl (fun last entry => max last entry.2.finish) 0
    modify fun session =>
      let machine := session.machine
      { session with
        machine := { machine with clock := max machine.clock last }
        jobs := session.jobs.map fun job => { job with waited := true } }
    goOn engine
    return 0
  else
    let statuses ← names.mapM fun name => do
      if name.startsWith "%" then await engine (← Builtin.findJob name).index
      else
        let number ← Builtin.natural name
        match (← get).jobs.find? fun job => job.number = number with
        | some job => await engine job.index
        | none => return 127
    return statuses.getLastD 127

end ToolGate.Host.Execution
