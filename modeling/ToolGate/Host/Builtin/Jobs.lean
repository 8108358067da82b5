import ToolGate.Host.Builtin.Signals

/-!
The commands of the shell that show jobs, or would move them.
-/

namespace ToolGate.Host

namespace Job

/-- The texts of the signals that end a process. -/
def signalTexts : List (Nat × String) := [
  (1, "Hangup"), (2, "Interrupt"), (3, "Quit"), (4, "Illegal instruction"),
  (5, "Trace/breakpoint trap"), (6, "Aborted"), (7, "Bus error"), (8, "Floating point exception"),
  (9, "Killed"), (10, "User defined signal 1"), (11, "Segmentation fault"),
  (12, "User defined signal 2"), (13, "Broken pipe"), (14, "Alarm clock"), (15, "Terminated"),
  (16, "Stack fault"), (24, "CPU time limit exceeded"), (25, "File size limit exceeded"),
  (26, "Virtual timer expired"), (27, "Profiling timer expired"), (29, "I/O possible"),
  (30, "Power failure"), (31, "Bad system call")]

def signalText (signal : Nat) : String :=
  match signalTexts.lookup signal with
  | some text => text
  | none =>
    if Builtin.firstFree ≤ signal then
      "Real-time signal " ++ toString (signal - Builtin.firstFree)
    else "Unknown signal " ++ toString signal

def stateText (job : Job) : String :=
  match job.status with
  | none => "Running"
  | some status =>
    match status.exitCode?, status.signal? with
    | some 0, _ => "Done"
    | some code, _ => "Done(" ++ toString code ++ ")"
    | none, some signal => signalText signal
    | none, none => "Done"

/-- The line of a job in a list in which it has a place. -/
def line (job : Job) (place : Nat) : String :=
  let mark := if place = 0 then "+" else if place = 1 then "-" else " "
  let text := "[" ++ toString job.index ++ "] " ++ mark ++ " " ++ job.stateText
  text ++ String.ofList (List.replicate (max 1 (33 - text.length)) ' ')

end Job

namespace Builtin

/-- Shows a job. One that is done is forgotten after that. -/
def showJob (numberOnly : Bool) (job : Job) : Shell Unit := do
  let session ← get
  let place := session.jobs.findIdx fun other => other.index = job.index
  Shell.say (if numberOnly then toString job.number else job.line place)
  if job.status.isSome then
    modify fun session =>
      { session with jobs := session.jobs.filter fun other => other.index != job.index }

def jobs : Builtin := fun args => do
  let (given, names) ← options "lp" "" args
  let numberOnly := (given.getLast?.map Prod.fst) = some 'p'
  if names.isEmpty then (← get).jobs.forM (showJob numberOnly)
  else names.forM fun name => do showJob numberOnly (← findJob name)
  return 0

/-- Would bring a job to the front or the back, for which the shell has no terminal. -/
def moveJob : Builtin := fun args => do
  let names ← operands args
  let _ ← findJob (names.headD "")
  Shell.refuse ("job " ++ names.headD "(null)" ++ " not created under job control")

end Builtin

end ToolGate.Host
