import ToolGate.Proofs.CommandLine.PosixLines
import ToolGate.Proofs.Execution.Endings

/-! The echo of a command. It is one line before everything else, and a run with it is that line
followed by the run without it. So the two start the same process in any world, and they end in the
same way wherever nobody reads what has been shown. -/
namespace ToolGate

open CommandLine

variable {σ φ ε α : Type}

/-- What a world has shown is kept apart from its files. A written text is added to its stream and
changes nothing else. What comes of any other request depends on the files alone, and what is shown
on the way is added to the streams. -/
structure World.StreamsApart (world : World σ) (files : σ → φ) (shown : Stream → σ → String) :
    Prop where
  files_write (stream : Stream) (text : String) (state : σ) :
    files (world.answer (.write stream text) state).2 = files state
  shown_write (stream target : Stream) (text : String) (state : σ) :
    shown stream (world.answer (.write target text) state).2 =
      shown stream state ++ if stream = target then text else ""
  reply_eq (request : Request) {first second : σ} (h : files first = files second) :
    (world.answer request first).1 = (world.answer request second).1
  files_eq (request : Request) {first second : σ} (h : files first = files second) :
    files (world.answer request first).2 = files (world.answer request second).2
  shown_eq (request : Request) {first second : σ} (h : files first = files second)
    (stream : Stream) :
    ∃ text, shown stream (world.answer request first).2 = shown stream first ++ text ∧
      shown stream (world.answer request second).2 = shown stream second ++ text

/-- With the same files a task runs in the same way, and it adds the same to what has been shown. -/
theorem World.StreamsApart.run {world : World σ} {files : σ → φ} {shown : Stream → σ → String}
    (hApart : world.StreamsApart files shown) (task : Task ε α) {first second : σ}
    (h : files first = files second) :
    (task.run world first).result = (task.run world second).result ∧
    (task.run world first).trace = (task.run world second).trace ∧
    files (task.run world first).state = files (task.run world second).state ∧
    ∀ stream, ∃ text, shown stream (task.run world first).state = shown stream first ++ text ∧
      shown stream (task.run world second).state = shown stream second ++ text := by
  induction task generalizing first second with
  | done value => exact ⟨rfl, rfl, h, fun stream => ⟨"", by simp [Task.run]⟩⟩
  | fail error => exact ⟨rfl, rfl, h, fun stream => ⟨"", by simp [Task.run]⟩⟩
  | ask request resume ih =>
      have hReply := hApart.reply_eq request h
      obtain ⟨hResult, hTrace, hFiles, hShown⟩ :=
        ih (world.answer request first).1 (hApart.files_eq request h)
      simp only [Task.run, ← hReply]
      refine ⟨hResult, by rw [hTrace], hFiles, fun stream => ?_⟩
      obtain ⟨here, hFirst, hSecond⟩ := hApart.shown_eq request h stream
      obtain ⟨later, hFirstLater, hSecondLater⟩ := hShown stream
      refine ⟨here ++ later, ?_, ?_⟩
      · rw [hFirstLater, hFirst, String.append_assoc]
      · rw [hSecondLater, hSecond, String.append_assoc]

/-- The command that an error is about. -/
def ExecutionError.command? : ExecutionError → Option String
  | .emptyCommand => none
  | .spawn command _ => some command
  | .nonZeroExit command _ => some command
  | .terminated command _ => some command

/-- An error names the command line that it is about. -/
theorem command?_of_classify {line : String} {reply : Except OsError WaitStatus}
    {error : ExecutionError} (h : classify line reply = .error error) :
    error.command? = some line := by
  rcases reply with cause | status
  · obtain rfl := Except.error.inj h
    rfl
  · rcases classify_ok_cases line status with ⟨-, -, hEnd⟩ | ⟨-, -, hEnd⟩ | ⟨-, hEnd⟩ <;>
      rw [hEnd] at h <;> cases h <;> rfl

/-- The echo comes first, and then everything is as it is without it. -/
theorem runCommand_of_echo (inherited : Environment) (program : String) (args : List String)
    (options : RunOptions) :
    runCommand inherited (program :: args) { options with quiet := false } = (do
      Task.writeLine .out (join Platform.host (commandWords program args))
      runCommand inherited (program :: args) { options with quiet := true }) := by
  simp [runCommand]
  rfl

/-- An echo changes nothing but what is shown. Whatever the world does, the process that is started
is the same, and the echo is one line before everything else, which a shell reads as the words of
the command. The same line is the command of every error, and the shell gets it if there is one. In
a world that keeps its files apart from the streams, the result, all replies and the files are the
same too, and what is shown differs in the echo alone, which stands in front of all that the process
shows. -/
theorem runCommand_echo {σ : Type} (world : World σ) (state : σ) (inherited : Environment)
    (program : String) (args : List String) (options : RunOptions) :
    let words := normalizeProgram .posix program :: args
    let line := join .posix words
    let echo := Request.write .out (line ++ "\n")
    let run (quiet : Bool) :=
      (runCommand inherited (program :: args) { options with quiet }).run world state
    (∃ process echoedReply silentReply,
      Trace.starts (run false).trace = [(process, echoedReply)] ∧
      Trace.starts (run true).trace = [(process, silentReply)] ∧
      (options.usesShell = true → process.program = "/bin/sh" ∧ process.args = ["-c", line])) ∧
    (∃ rest, (run false).trace = ⟨echo, ()⟩ :: rest ∧ ∀ stream, Trace.texts stream rest = []) ∧
    (∀ stream, Trace.texts stream (run true).trace = []) ∧
    shellWords line = some words ∧
    (∀ quiet error, (run quiet).result = .error error → error.command? = some line) ∧
    ∀ (φ : Type) (files : σ → φ) (shown : Stream → σ → String), world.StreamsApart files shown →
      (run false).result = (run true).result ∧
      (run false).trace = ⟨echo, ()⟩ :: (run true).trace ∧
      files (run false).state = files (run true).state ∧
      ∀ stream, ∃ text,
        shown stream (run true).state = shown stream state ++ text ∧
        shown stream (run false).state =
          shown stream state ++ (if stream = .out then line ++ "\n" else "") ++ text := by
  intro words line echo run
  have hQuiet : ({ options with quiet := true } : RunOptions).quiet = true := rfl
  have hSilent := run_runCommand_of_quiet world inherited program args state hQuiet
  have hLoud : ({ options with quiet := false } : RunOptions).quiet = false := rfl
  have hEchoed := run_runCommand_of_echo world inherited program args state hLoud
  refine ⟨?_, ⟨_, congrArg Outcome.trace hEchoed, fun _ => rfl⟩, ?_, shellWords_line words, ?_, ?_⟩
  · obtain ⟨echoedReply, hEchoedStarts⟩ := starts_runCommand world inherited program args state
      { options with quiet := false }
    obtain ⟨silentReply, hSilentStarts⟩ := starts_runCommand world inherited program args state
      { options with quiet := true }
    refine ⟨_, echoedReply, silentReply, hEchoedStarts, hSilentStarts, fun hShell => ?_⟩
    have hUses : ({ options with quiet := false } : RunOptions).usesShell = true := hShell
    rw [spawnRequest, if_pos hUses]
    exact ⟨rfl, rfl⟩
  · intro stream
    have hTrace : (run true).trace = _ := congrArg Outcome.trace hSilent
    rw [hTrace, texts_launch]
  · intro quiet error hError
    obtain ⟨reply, -, hResult⟩ :=
      exists_reply_runCommand world inherited program args state { options with quiet }
    exact command?_of_classify (hResult.symm.trans hError)
  · intro φ files shown hApart
    let echoed := (world.answer echo state).2
    have hFiles : files echoed = files state := hApart.files_write .out (line ++ "\n") state
    let silent := runCommand inherited (program :: args) { options with quiet := true }
    obtain ⟨hResult, hTrace, hState, hShown⟩ := hApart.run silent hFiles
    have hRun : run false =
        { silent.run world echoed with
          trace := ⟨echo, ()⟩ :: (silent.run world echoed).trace } := by
      simp only [run, runCommand_of_echo]
      rfl
    rw [hRun]
    refine ⟨hResult, congrArg (⟨echo, ()⟩ :: ·) hTrace, hState, fun stream => ?_⟩
    obtain ⟨text, hEchoedShown, hSilentShown⟩ := hShown stream
    refine ⟨text, hSilentShown, ?_⟩
    rw [hEchoedShown, hApart.shown_write]

/-- A host with a number in its only file, and with what it has shown. -/
structure CountingHost where
  count : Nat
  out : String
  err : String

namespace CountingHost

/-- What stands on a stream. -/
def shown (host : CountingHost) (stream : Stream) : String :=
  match stream with
  | .out => host.out
  | .err => host.err

/-- Adds a text to a stream. -/
def print (host : CountingHost) (stream : Stream) (text : String) : CountingHost :=
  match stream with
  | .out => { host with out := host.out ++ text }
  | .err => { host with err := host.err ++ text }

/-- A process prints the number, raises it by one, and exits with it. -/
def world : World CountingHost where
  answer
    | .write stream text, host => ((), host.print stream text)
    | .log _, host => ((), host)
    | .start _, host => (.ok (.exited (host.count + 1)),
        { host.print .out (toString host.count) with count := host.count + 1 })
    | .enableConsole, host => (.ok .enabled, host)

theorem shown_print (host : CountingHost) (stream target : Stream) (text : String) :
    (host.print target text).shown stream =
      host.shown stream ++ if stream = target then text else "" := by
  cases stream <;> cases target <;> simp [print, shown]

theorem count_print (host : CountingHost) (stream : Stream) (text : String) :
    (host.print stream text).count = host.count := by
  cases stream <;> rfl

/-- The host keeps its number apart from its streams, so that an echo is seen and changes nothing
else. -/
theorem streamsApart : world.StreamsApart count (fun stream host => host.shown stream) where
  files_write stream text host := host.count_print stream text
  shown_write stream target text host := host.shown_print stream target text
  reply_eq request first second h := by cases request <;> simp [world, h]
  files_eq request first second h := by
    cases request with
    | write stream text =>
        exact (first.count_print _ _).trans (h.trans (second.count_print _ _).symm)
    | log message => exact h
    | start process => exact congrArg (· + 1) h
    | enableConsole => exact h
  shown_eq request first second h stream := by
    cases request with
    | write target text => exact ⟨_, first.shown_print _ _ _, second.shown_print _ _ _⟩
    | log message => exact ⟨"", by simp [world]⟩
    | start process =>
        refine ⟨_, first.shown_print stream .out (toString first.count), ?_⟩
        rw [h]
        exact second.shown_print stream .out (toString second.count)
    | enableConsole => exact ⟨"", by simp [world]⟩

end CountingHost

/-- Through the shell, with a quote and a blank to be quoted, and with an exit that is a failure. -/
theorem runCommand_echo_counting :
    let line := "'a b' 'it'\"'\"'s'"
    let run (quiet : Bool) := (runCommand .empty ["./a b", "it's"]
      { quiet, shell := some true }).run CountingHost.world ⟨3, "> ", ""⟩
    (run false).result = (run true).result ∧
    (∃ error, (run false).result = .error error ∧ error.command? = some line) ∧
    shellWords line = some ["a b", "it's"] ∧
    (∃ process reply, Trace.starts (run false).trace = [(process, reply)] ∧
      process.args = ["-c", line]) ∧
    (run false).state.count = (run true).state.count ∧
    ∃ text, (run true).state.out = "> " ++ text ∧
      (run false).state.out = "> " ++ (line ++ "\n") ++ text := by
  intro line run
  obtain ⟨hProcess, -, -, hWords, hCommand, hApart⟩ := runCommand_echo CountingHost.world
    ⟨3, "> ", ""⟩ .empty "./a b" ["it's"] { shell := some true }
  have hFailure : (run false).result = .error (.nonZeroExit line 4) := rfl
  obtain ⟨process, reply, -, hStarts, -, hShell⟩ := hProcess
  obtain ⟨hResult, -, hCount, hShown⟩ :=
    hApart Nat CountingHost.count (fun stream host => host.shown stream) CountingHost.streamsApart
  obtain ⟨text, hSilent, hEchoed⟩ := hShown .out
  exact ⟨hResult, ⟨_, hFailure, hCommand false _ hFailure⟩, hWords,
    ⟨process, reply, hStarts, (hShell rfl).2⟩, hCount, text, hSilent, hEchoed⟩

end ToolGate
