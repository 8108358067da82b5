import ToolGate.Host.Builtin
import ToolGate.Host.Quotation

/-!
The commands of the shell that send signals and say what is done when they arrive. A signal with a
script waits until the command that runs is done; one without a script ends the shell, unless it is
harmless.
-/

namespace ToolGate.Host.Builtin

def signalCount : Nat := 64

/-- The signal whose name the shell does not know. -/
def namelessSignal : Nat := 16

/-- The first signal without a meaning of its own, and the last one. -/
def firstFree : Nat := 34

/-- The name of a signal, or its number. The end of the shell counts as signal 0. -/
def signalName (signal : Nat) : String :=
  if signal = 0 then "EXIT"
  else if signal = namelessSignal then toString signal
  else if firstFree ≤ signal then
    let above := signal - firstFree
    let below := signalCount - signal
    if above = 0 then "RTMIN"
    else if below = 0 then "RTMAX"
    else if above ≤ below then "RTMIN+" ++ toString above
    else "RTMAX-" ++ toString below
  else (WaitStatus.signalNames[signal - 1]?).getD (toString signal)

/-- The signal with a number or a name, from some least number on where it is named. -/
def signal? (least : Nat) (text : String) : Option Nat :=
  if !text.isEmpty && text.toList.all Char.isDigit then
    text.toNat?.filter (· ≤ signalCount)
  else
    ((List.range (signalCount + 1)).drop least).find? fun signal =>
      (signalName signal).toUpper = text.toUpper

def harmless : List Nat := [0, 17, 18, 19, 20, 21, 22, 23, 28]

/-- The signals that nothing can meet but the end. -/
def unmet : List Nat := [9, 19]

/-- Meets a signal: by the script that was set for it, or by the end of the shell. -/
def meet (signal : Nat) : Shell Unit := do
  let session ← get
  let script? := if session.unnoticed.contains signal then some "" else session.traps.lookup signal
  match (if unmet.contains signal then none else script?) with
  | some script =>
    unless script.isEmpty || session.pending.contains signal do
      Shell.adjust fun context =>
        { context with pending := (signal :: context.pending).mergeSort fun a b => a ≤ b }
  | none => unless harmless.contains signal do throw (.killed signal)

/-- The signals that commands in the background do not notice. -/
def unnoticedBehind : List Nat := [2, 3]

/-- Sends a signal to a job. The result says whether the job is still running. -/
def sendToJob (signal : Nat) (job : Job) : Shell Bool := do
  unless harmless.contains signal || unnoticedBehind.contains signal || job.status.isSome do
    modify fun session =>
      { session with
        jobs := session.jobs.map fun other =>
          if other.index = job.index then
            { job with status := some (.killed signal), delayed := none }
          else other }
  return job.status.isNone

/-- Sends a signal to the process with a number. The result says whether there is one. -/
def send (signal number : Nat) : Shell Bool := do
  let session ← get
  if number = session.number && !session.isCopy then
    meet signal
    return true
  else if number = session.number || session.machine.waitingProcesses.contains number then
    let machine := session.machine
    MonadStateOf.set { session with
      machine := { machine with signals := machine.signals ++ [(number, signal)] } }
    return true
  else
    match session.jobs.find? fun job => job.number = number with
    | some job => sendToJob signal job
    | none => return false

/-- The job that a text speaks of. The sign of a job may be followed by its number, or by one that
stands for the current job or the one before it. -/
def findJob (text : String) : Shell Job := do
  let jobs := (← get).jobs
  match text.toList with
  | [] | ['%'] | ['%', '%'] | ['%', '+'] =>
    match jobs with
    | job :: _ => return job
    | [] => Shell.refuse "No current job"
  | ['%', '-'] =>
    match jobs with
    | _ :: job :: _ => return job
    | _ => Shell.refuse "No previous job"
  | '%' :: digits =>
    match jobs.find? fun job => digits = (toString job.index).toList with
    | some job => return job
    | none => Shell.refuse ("No such job: " ++ text)
  | _ => Shell.refuse ("No such job: " ++ text)

def sendTo (signal : Nat) (target : String) : Shell Nat := do
  let found ←
    match target.toList with
    | '%' :: _ => do sendToJob signal (← findJob target)
    | '-' :: rest => do
      let _ ← natural (String.ofList rest)
      pure false
    | _ => do send signal (← natural target)
  if found then return 0
  else
    Shell.complain (OsError.numberText 3 ++ "\n")
    return 1

def killUsage : String :=
  "Usage: kill [-s sigspec | -signum | -sigspec] [pid | job]... or\nkill -l [exitstatus]"

def listSignals : Builtin
  | [] => do
    Shell.say "0"
    ((List.range (signalCount + 1)).drop 1).forM fun signal => Shell.say (signalName signal)
    return 0
  | text :: _ => do
    let status ← natural text
    let signal := if 128 < status then status - 128 else status
    if 0 < signal && signal ≤ signalCount then
      Shell.say (signalName signal)
      return 0
    else Shell.refuse ("invalid signal number or exit status: " ++ text)

def kill : Builtin := fun args => do
  let named :=
    match args with
    | first :: rest =>
      match first.toList with
      | '-' :: name => (signal? 1 (String.ofList name)).map fun signal => (signal, rest)
      | _ => none
    | [] => none
  match named with
  | some (signal, targets) => sendAll signal targets
  | none =>
    let (given, targets) ← options "l" "s" args
    let signal ←
      match given.lookup 's' with
      | some name =>
        match signal? 1 name with
        | some signal => pure (some signal)
        | none => Shell.refuse ("invalid signal number or name: " ++ name)
      | none => pure none
    if isGiven 'l' given then
      if signal.isSome then Shell.refuse killUsage else listSignals targets
    else sendAll (signal.getD 15) targets
where
  /-- Sends a signal to all targets. -/
  sendAll (signal : Nat) (targets : List String) : Shell Nat := do
    if targets.isEmpty then Shell.refuse killUsage
    else return (← targets.mapM (sendTo signal)).foldl max 0

def setTrap (signal : Nat) (script : Option String) : Shell Unit :=
  Shell.adjust fun context =>
    let others := context.traps.filter fun entry => entry.1 != signal
    { context with traps := (script.map fun script => (signal, script)).toList ++ others }

/-- Sets scripts for signals until one is not known. -/
def setTraps (script : Option String) : List String → Shell Nat
  | [] => return 0
  | name :: rest =>
    match signal? 0 name with
    | some signal => do
      setTrap signal script
      setTraps script rest
    | none => do
      Shell.write 2 ("trap: " ++ name ++ ": bad trap\n")
      return 1

/-- Sets what is done when signals arrive. Without arguments, lists what has been set; a number in
the place of the script takes the scripts of signals back. -/
def trap : Builtin := fun args => do
  match ← operands args with
  | [] =>
    ((← get).traps.mergeSort fun a b => a.1 ≤ b.1).forM fun (signal, script) =>
      Shell.say ("trap -- " ++ Quotation.inScript script ++ " " ++ signalName signal)
    return 0
  | [name] => setTraps none [name]
  | script :: names =>
    if !script.isEmpty && script.toList.all Char.isDigit && (signal? 0 script).isSome then
      setTraps none (script :: names)
    else setTraps (if script = "-" then none else some script) names

end ToolGate.Host.Builtin
