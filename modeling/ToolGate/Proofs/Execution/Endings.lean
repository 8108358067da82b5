import ToolGate.Proofs.Execution.Command

/-! How a command ends, read off the bits with which the system reports the end of its process.
Every status word belongs to exactly one ending, and an ending that is a failure has an exit code
that no success has, also in the eight bits that the system keeps of it. -/
namespace ToolGate

namespace WaitStatus

variable (status : WaitStatus)

theorem lowSeven_eq : status.lowSeven = (status.bits.extractLsb' 0 7).toNat := by
  simp [lowSeven, BitVec.extractLsb'_toNat]

theorem secondByte_eq : status.secondByte = (status.bits.extractLsb' 8 8).toNat := by
  simp [secondByte, BitVec.extractLsb'_toNat, Nat.shiftRight_eq_div_pow]

end WaitStatus

section Classify

variable {line command : String} {status : WaitStatus}

theorem classify_of_exit (h : status.lowSeven = 0) (hCode : status.secondByte = 0) :
    classify line (.ok status) = .ok () := by
  simp [classify, WaitStatus.exitCode?, h, hCode]

theorem classify_of_failure (h : status.lowSeven = 0) (hCode : status.secondByte ≠ 0) :
    classify line (.ok status) = .error (.nonZeroExit line status.secondByte) := by
  obtain ⟨code, hSucc⟩ := Nat.exists_eq_succ_of_ne_zero hCode
  simp [classify, WaitStatus.exitCode?, h, hSucc]

/-- A process that did not exit was terminated, or has only been stopped. -/
theorem classify_of_termination (h : status.lowSeven ≠ 0) :
    classify line (.ok status) = .error (.terminated line status) := by
  simp [classify, WaitStatus.exitCode?, h]

/-- The three endings of a started process exclude each other and leave out none. -/
theorem classify_ok_cases (line : String) (status : WaitStatus) :
    (status.lowSeven = 0 ∧ status.secondByte = 0 ∧ classify line (.ok status) = .ok ()) ∨
    (status.lowSeven = 0 ∧ status.secondByte ≠ 0 ∧
      classify line (.ok status) = .error (.nonZeroExit line status.secondByte)) ∨
    (status.lowSeven ≠ 0 ∧ classify line (.ok status) = .error (.terminated line status)) := by
  by_cases h : status.lowSeven = 0
  · by_cases hCode : status.secondByte = 0
    · exact Or.inl ⟨h, hCode, classify_of_exit h hCode⟩
    · exact Or.inr (Or.inl ⟨h, hCode, classify_of_failure h hCode⟩)
  · exact Or.inr (Or.inr ⟨h, classify_of_termination h⟩)

theorem classify_ne_emptyCommand (line : String) (reply : Except OsError WaitStatus) :
    classify line reply ≠ .error .emptyCommand := by
  rcases reply with cause | status
  · simp [classify]
  · rcases classify_ok_cases line status with ⟨-, -, h⟩ | ⟨-, -, h⟩ | ⟨-, h⟩ <;> simp [h]

/-- A process that could not be started has no status, and its error is handed on as it is. -/
theorem classify_eq_spawn_iff {reply : Except OsError WaitStatus} {cause : OsError} :
    classify line reply = .error (.spawn command cause) ↔
      command = line ∧ reply = .error cause := by
  rcases reply with found | status
  · simp [classify, eq_comm]
  · rcases classify_ok_cases line status with ⟨-, -, h⟩ | ⟨-, -, h⟩ | ⟨-, h⟩ <;> simp [h]

/-- Success, in terms of the bits of the status. -/
theorem classify_eq_ok_iff_bits :
    classify line (.ok status) = .ok () ↔ status.lowSeven = 0 ∧ status.secondByte = 0 := by
  rcases classify_ok_cases line status with ⟨hLow, hCode, h⟩ | ⟨hLow, hCode, h⟩ | ⟨hLow, h⟩
  · simp [h, hLow, hCode]
  · simp [h, hCode]
  · simp [h, hLow]

theorem classify_eq_nonZeroExit_iff {code : Int} :
    classify line (.ok status) = .error (.nonZeroExit command code) ↔
      command = line ∧ status.lowSeven = 0 ∧ status.secondByte ≠ 0 ∧ code = status.secondByte := by
  rcases classify_ok_cases line status with ⟨hLow, hCode, h⟩ | ⟨hLow, hCode, h⟩ | ⟨hLow, h⟩
  · simp [h, hCode]
  · simp [h, hLow, hCode, eq_comm]
  · simp [h, hLow]

theorem classify_eq_terminated_iff {found : WaitStatus} :
    classify line (.ok status) = .error (.terminated command found) ↔
      command = line ∧ status.lowSeven ≠ 0 ∧ found = status := by
  rcases classify_ok_cases line status with ⟨hLow, -, h⟩ | ⟨hLow, -, h⟩ | ⟨hLow, h⟩
  · simp [h, hLow]
  · simp [h, hLow]
  · simp [h, hLow, eq_comm]

/-- A failure has an exit code of its own in the eight bits that the system keeps. -/
theorem exitCode_mem_of_classify {reply : Except OsError WaitStatus} {error : ExecutionError}
    (h : classify line reply = .error error) : 1 ≤ error.exitCode ∧ error.exitCode ≤ 255 := by
  have hCode := exitCode_of_classify h
  have hLess := childStatus_lt reply
  have hNonzero : childStatus reply ≠ 0 := by
    rw [Ne, ← classify_eq_ok_iff line, h]
    simp
  omega

end Classify

/-- A signal is told apart from the exit codes by 128. -/
theorem exitCode_terminated_of_signal (command : String) {status : WaitStatus}
    (h : 1 ≤ status.lowSeven ∧ status.lowSeven ≤ 126) :
    (ExecutionError.terminated command status).exitCode = 128 + status.lowSeven := by
  simp [ExecutionError.exitCode, WaitStatus.signal?, h]

/-- A status that is neither an exit nor the end by a signal has the code of the program's own
errors. -/
theorem exitCode_terminated_of_no_signal (command : String) {status : WaitStatus}
    (h : status.lowSeven = 127) : (ExecutionError.terminated command status).exitCode = 1 := by
  simp [ExecutionError.exitCode, WaitStatus.signal?, h]

/-- Every run ends in one of five ways, and the bits of the status word tell which. A run without a
program touches nothing. Any other one starts a process: if that fails, so does the run, with the
reason; if not, a status whose lowest seven bits are zero is an exit with the code in its second
byte, which is a success if it is zero too, and every other status is a termination. A failure never
has the exit code of a success: a termination by a signal has 128 and the signal, and one without a
signal has 1. -/
theorem runCommand_ends {σ : Type} (world : World σ) (state : σ) (inherited : Environment)
    (args : List String) (options : RunOptions) :
    let outcome := (runCommand inherited args options).run world state
    (outcome.result = .error .emptyCommand ↔ args = []) ∧
    (args = [] → outcome.trace = [] ∧ outcome.state = state) ∧
    (∀ program rest, args = program :: rest →
      let line := CommandLine.join Platform.host (commandWords program rest)
      ∃ process reply, Trace.starts outcome.trace = [(process, reply)] ∧
        (∀ command cause, outcome.result = .error (.spawn command cause) ↔
          command = line ∧ reply = .error cause) ∧
        ∀ status : WaitStatus, reply = .ok status →
          let low := (status.bits.extractLsb' 0 7).toNat
          let second := (status.bits.extractLsb' 8 8).toNat
          (outcome.result = .ok () ↔ low = 0 ∧ second = 0) ∧
          (∀ command code, outcome.result = .error (.nonZeroExit command code) ↔
            command = line ∧ low = 0 ∧ second ≠ 0 ∧ code = second) ∧
          ∀ command found, outcome.result = .error (.terminated command found) ↔
            command = line ∧ low ≠ 0 ∧ found = status) ∧
    (∀ error, outcome.result = .error error → 1 ≤ error.exitCode ∧ error.exitCode ≤ 255) ∧
    ∀ command status, outcome.result = .error (.terminated command status) →
      let error := ExecutionError.terminated command status
      let low := (status.bits.extractLsb' 0 7).toNat
      (1 ≤ low ∧ low ≤ 126 → error.exitCode = 128 + low) ∧ (low = 127 → error.exitCode = 1) := by
  intro outcome
  have hTerminated (command : String) (status : WaitStatus) :
      let error := ExecutionError.terminated command status
      let low := (status.bits.extractLsb' 0 7).toNat
      (1 ≤ low ∧ low ≤ 126 → error.exitCode = 128 + low) ∧ (low = 127 → error.exitCode = 1) := by
    rw [← status.lowSeven_eq]
    exact ⟨exitCode_terminated_of_signal command, exitCode_terminated_of_no_signal command⟩
  cases args with
  | nil =>
      have hResult : outcome.result = .error .emptyCommand := rfl
      refine ⟨by simp [hResult], fun _ => ⟨rfl, rfl⟩, nofun, ?_,
        fun command status _ => hTerminated command status⟩
      intro error hError
      obtain rfl : .emptyCommand = error := Except.error.inj (hResult.symm.trans hError)
      decide
  | cons program rest =>
      obtain ⟨reply, hStarts, hResult⟩ :=
        exists_reply_runCommand world inherited program rest state options
      change outcome.result = _ at hResult
      rw [hResult]
      refine ⟨by simp [classify_ne_emptyCommand], by simp, ?_,
        fun error => exitCode_mem_of_classify, fun command status _ => hTerminated command status⟩
      rintro _ _ ⟨rfl, rfl⟩
      refine ⟨_, reply, hStarts, ?_, ?_⟩
      · intro command cause
        exact classify_eq_spawn_iff
      · rintro status rfl
        rw [← status.lowSeven_eq, ← status.secondByte_eq]
        exact ⟨classify_eq_ok_iff_bits, fun _ _ => classify_eq_nonZeroExit_iff,
          fun _ _ => classify_eq_terminated_iff⟩

/-- A status with all bits set reports no signal, and the code of an exit is not looked for in the
status of a death. -/
theorem runCommand_ends_statuses :
    let run (status : WaitStatus) :=
      (runCommand .empty ["tool"] .silent).run (.replying (.ok status)) ()
    (run (.ofInt (-1))).result = .error (.terminated "tool" (.ofInt (-1))) ∧
    (ExecutionError.terminated "tool" (.ofInt (-1))).exitCode = 1 ∧
    (run (.ofInt 0x0289)).result = .error (.terminated "tool" (.ofInt 0x0289)) ∧
    (ExecutionError.terminated "tool" (.ofInt 0x0289)).exitCode = 128 + 9 ∧
    (run (.ofInt (-0x0100))).result = .error (.nonZeroExit "tool" 255) ∧
    (run (.ofInt (-0x10000))).result = .ok () := by
  intro run
  -- The reply of this world is its status, so the bits decide.
  have hBits (status : WaitStatus) :
      let low := (status.bits.extractLsb' 0 7).toNat
      let second := (status.bits.extractLsb' 8 8).toNat
      ((run status).result = .ok () ↔ low = 0 ∧ second = 0) ∧
      (∀ command code, (run status).result = .error (.nonZeroExit command code) ↔
        command = "tool" ∧ low = 0 ∧ second ≠ 0 ∧ code = second) ∧
      ∀ command found, (run status).result = .error (.terminated command found) ↔
        command = "tool" ∧ low ≠ 0 ∧ found = status := by
    obtain ⟨-, -, hStarted, -, -⟩ :=
      runCommand_ends (.replying (.ok status)) () .empty ["tool"] .silent
    obtain ⟨process, reply, hStarts, -, hStatus⟩ := hStarted "tool" [] rfl
    obtain ⟨-, rfl⟩ := Prod.mk.inj (List.cons.inj hStarts).1
    exact hStatus status rfl
  have hCode (status : WaitStatus)
      (h : (run status).result = .error (.terminated "tool" status)) :=
    (runCommand_ends (.replying (.ok status)) () .empty ["tool"] .silent).2.2.2.2 "tool" status h
  have hAll : (run (.ofInt (-1))).result = .error (.terminated "tool" (.ofInt (-1))) :=
    ((hBits _).2.2 _ _).2 ⟨rfl, by decide, rfl⟩
  have hKilled : (run (.ofInt 0x0289)).result = .error (.terminated "tool" (.ofInt 0x0289)) :=
    ((hBits _).2.2 _ _).2 ⟨rfl, by decide, rfl⟩
  exact ⟨hAll, (hCode _ hAll).2 (by decide), hKilled, (hCode _ hKilled).1 (by decide),
    ((hBits _).2.1 _ _).2 ⟨rfl, by decide, by decide, by decide⟩,
    (hBits _).1.2 (by decide)⟩

end ToolGate
