import ToolGate.Proofs.Execution.Trace
import ToolGate.Run

/-! One command: what its run exchanges, and which exit status its end stands for. -/
namespace ToolGate

variable {σ : Type}

/-- The exit status that the reply to a start stands for: the code of an exit, 128 and the number of
a deadly signal, and 1 when there was no start or no such end. Only 0 is a success. -/
def childStatus : Except OsError WaitStatus → Nat
  | .error _ => 1
  | .ok status =>
    match status.exitCode?, status.signal? with
    | some code, _ => code
    | none, some signal => 128 + signal
    | none, none => 1

theorem WaitStatus.exitCode?_lt {status : WaitStatus} {code : Nat}
    (h : status.exitCode? = some code) : code < 256 := by
  unfold WaitStatus.exitCode? at h
  split at h
  · cases h
    exact Nat.mod_lt _ (by decide)
  · cases h

/-- The number of a signal has seven bits, of which zero and the greatest one mean something else.
-/
theorem WaitStatus.signal?_lt {status : WaitStatus} {signal : Nat}
    (h : status.signal? = some signal) : 1 ≤ signal ∧ signal < 127 := by
  unfold WaitStatus.signal? at h
  split at h
  · cases h
    omega
  · cases h

/-- The system's eight bits hold every status. -/
theorem childStatus_lt (reply : Except OsError WaitStatus) : childStatus reply < 256 := by
  rcases reply with _ | status
  · exact (by decide : 1 < 256)
  · cases hCode : status.exitCode? with
    | some code => simpa [childStatus, hCode] using WaitStatus.exitCode?_lt hCode
    | none =>
        cases hSignal : status.signal? with
        | some signal =>
            have hBounds := WaitStatus.signal?_lt hSignal
            simp only [childStatus, hCode, hSignal]
            omega
        | none => simp [childStatus, hCode, hSignal]

/-- Only an exit with code 0 is a success. -/
theorem classify_eq_ok_iff (line : String) (reply : Except OsError WaitStatus) :
    classify line reply = .ok () ↔ childStatus reply = 0 := by
  rcases reply with _ | status
  · simp [classify, childStatus]
  · cases hCode : status.exitCode? with
    | some code => cases code <;> simp [classify, childStatus, hCode]
    | none => cases hSignal : status.signal? <;> simp [classify, childStatus, hCode, hSignal]

/-- The error of a command keeps the status of its process. -/
theorem exitCode_of_classify {line : String} {reply : Except OsError WaitStatus}
    {error : ExecutionError} (h : classify line reply = .error error) :
    error.exitCode = childStatus reply := by
  rcases reply with _ | status
  · obtain rfl := Except.error.inj h
    rfl
  · cases hCode : status.exitCode? with
    | some code =>
        cases code with
        | zero => simp [classify, hCode] at h
        | succ code =>
            simp only [classify, hCode] at h
            obtain rfl := Except.error.inj h
            simp [ExecutionError.exitCode, childStatus, hCode]
    | none =>
        simp only [classify, hCode] at h
        obtain rfl := Except.error.inj h
        cases hSignal : status.signal? <;>
          simp [ExecutionError.exitCode, childStatus, hCode, hSignal]

section Launch

variable (world : World σ) (line : String) (options : RunOptions) (process : SpawnRequest)
  (state : σ)

/-- What becomes of a process that is put on record, started and waited for. -/
def launch : Outcome σ ExecutionError Unit :=
  let recording := Request.log (spawnRecord line options process)
  let reply := world.answer (.start process) (world.answer recording state).2
  ⟨classify line reply.1, reply.2, [⟨recording, ()⟩, ⟨.start process, reply.1⟩]⟩

/-- A launch starts its process and nothing else. -/
@[simp] theorem starts_launch :
    Trace.starts (launch world line options process state).trace =
      [(process, (world.answer (.start process)
        (world.answer (.log (spawnRecord line options process)) state).2).1)] := rfl

/-- A launch writes nothing. What is seen of a command is its echo. -/
@[simp] theorem texts_launch (stream : Stream) :
    Trace.texts stream (launch world line options process state).trace = [] := rfl

end Launch

variable (world : World σ) (inherited : Environment) (program : String) (args : List String)
  (state : σ)

/-- Without an echo, nothing is exchanged but the record and the start. -/
theorem run_runCommand_of_quiet {options : RunOptions} (hQuiet : options.quiet = true) :
    (runCommand inherited (program :: args) options).run world state =
      launch world (CommandLine.join Platform.host (commandWords program args)) options
        (spawnRequest inherited (commandWords program args) options) state := by
  simp [runCommand, hQuiet, launch]

/-- The echo is one line before everything else. -/
theorem run_runCommand_of_echo {options : RunOptions} (hEcho : options.quiet = false) :
    let line := CommandLine.join Platform.host (commandWords program args)
    let echo := Request.write .out (line ++ "\n")
    let rest := launch world line options
      (spawnRequest inherited (commandWords program args) options) (world.answer echo state).2
    (runCommand inherited (program :: args) options).run world state =
      { rest with trace := ⟨echo, ()⟩ :: rest.trace } := by
  simp [runCommand, hEcho, launch]

/-- With or without an echo, a run starts one process, and its reply is the only thing that decides
how the run ends. -/
theorem exists_reply_runCommand (options : RunOptions) :
    let outcome := (runCommand inherited (program :: args) options).run world state
    ∃ reply, Trace.starts outcome.trace =
        [(spawnRequest inherited (commandWords program args) options, reply)] ∧
      outcome.result =
        classify (CommandLine.join Platform.host (commandWords program args)) reply := by
  cases hQuiet : options.quiet with
  | true =>
      rw [run_runCommand_of_quiet world inherited program args state hQuiet]
      exact ⟨_, starts_launch world _ options _ state, rfl⟩
  | false =>
      rw [run_runCommand_of_echo world inherited program args state hQuiet]
      exact ⟨_, starts_launch world _ options _ _, rfl⟩

/-- A command with a program always starts one process, whatever it is replied. -/
theorem starts_runCommand (options : RunOptions) :
    ∃ reply, Trace.starts ((runCommand inherited (program :: args) options).run world state).trace =
      [(spawnRequest inherited (commandWords program args) options, reply)] := by
  obtain ⟨reply, hStarts, -⟩ :=
    exists_reply_runCommand world inherited program args state options
  exact ⟨reply, hStarts⟩

end ToolGate
