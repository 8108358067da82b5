import ToolGate.Proofs.Execution.Children
import ToolGate.Proofs.Execution.Requests
import ToolGate.Proofs.Execution.Variables

/-! What happens before the first command of an action. An action that refuses its arguments makes
no request at all. The console is asked by one action only, once and before everything that a user
could see, and nothing depends on which of its two good answers it gives. -/
namespace ToolGate

variable {σ : Type}

namespace Trace

/-- The replies of the console, in order. -/
def consoleReplies (trace : List Exchange) : List (Except ConsoleError ConsoleStatus) :=
  trace.filterMap fun
    | ⟨.enableConsole, reply⟩ => some reply
    | _ => none

end Trace

/-- Where the console is never asked, it never replies. -/
theorem Task.consoleReplies_run {ε α : Type} {task : Task ε α}
    (h : task.Uses (· ≠ .enableConsole)) (world : World σ) (state : σ) :
    Trace.consoleReplies (task.run world state).trace = [] := by
  refine List.filterMap_eq_nil_iff.2 fun ⟨request, reply⟩ hExchange => ?_
  have hRequest := allowed_of_mem_trace h world state _ hExchange
  cases request with
  | enableConsole => exact absurd rfl hRequest
  | write stream text => rfl
  | log message => rfl
  | start process => rfl

/-- The same world, except for what its console replies. -/
def World.withConsole (world : World σ) (reply : Except ConsoleError ConsoleStatus) : World σ where
  answer
    | .enableConsole, state => (reply, (world.answer .enableConsole state).2)
    | .write stream text, state => world.answer (.write stream text) state
    | .log message, state => world.answer (.log message) state
    | .start process, state => world.answer (.start process) state

/-- The two worlds differ in nothing but the console. -/
theorem World.answer_withConsole (world : World σ) (reply : Except ConsoleError ConsoleStatus)
    {request : Request} (h : request ≠ .enableConsole) (state : σ) :
    (world.withConsole reply).answer request state = world.answer request state := by
  cases request with
  | enableConsole => exact absurd rfl h
  | write stream text => rfl
  | log message => rfl
  | start process => rfl

variable (inherited : Environment) (settings : Settings)

/-- A command asks for records, for texts and for its process, but not for the console. -/
theorem uses_runCommand (args : List String) (options : RunOptions) :
    (runCommand inherited args options).Uses (· ≠ .enableConsole) := by
  cases args with
  | nil => trivial
  | cons program rest =>
      have hLog : ∀ message, Request.log message ≠ .enableConsole := nofun
      have hStart : ∀ process, Request.start process ≠ .enableConsole := nofun
      have hWrite : ∀ stream text, Request.write stream text ≠ .enableConsole := nofun
      have hRest : ∀ (line record : String) (process : SpawnRequest),
          Task.Uses (· ≠ .enableConsole) (do
            Task.perform (.log record)
            let reply ← Task.perform (.start process)
            Task.ofExcept (classify line reply)) := by
        intro line record process
        exact Task.uses_bind (Task.uses_perform (hLog record)) fun _ =>
          Task.uses_bind (Task.uses_perform (hStart process)) fun _ => Task.uses_ofExcept _
      simp only [runCommand]
      split
      · exact hRest _ _ _
      · exact Task.uses_bind (Task.uses_writeLine (hWrite _ _)) fun _ => hRest _ _ _

theorem Stage.uses_task (stage : Stage) :
    (task inherited settings stage).Uses (· ≠ .enableConsole) := by
  cases stage with
  | header text => exact Task.uses_writeLine nofun
  | command title words =>
      exact Task.uses_bind (Task.uses_perform nofun) fun _ =>
        Task.uses_mapError (uses_runCommand inherited words _) _

theorem uses_runSteps (steps : List Step) :
    (runSteps inherited settings steps).Uses (· ≠ .enableConsole) := by
  rw [Stage.runSteps_eq]
  exact Task.uses_forM fun stage _ => Stage.uses_task inherited settings stage

/-- Whatever comes of them, the other actions leave the console alone. -/
theorem Action.uses_perform {action : Action} (hAction : action ≠ .lint) (args : List String) :
    (action.perform inherited settings args).Uses (· ≠ .enableConsole) := by
  cases action with
  | exec =>
      exact Task.uses_bind (Task.uses_ofExcept _) fun given =>
        Task.uses_bind (Task.uses_ofExcept _) fun overlay =>
          Task.uses_mapError (uses_runCommand inherited given.command _) _
  | format =>
      exact Task.uses_bind (Task.uses_ofExcept _) fun _ =>
        uses_runSteps inherited settings Action.format.steps
  | lint => exact absurd rfl hAction

namespace Action

/-- An action with steps takes no arguments. -/
theorem perform_of_args {action : Action} (hAction : action ≠ .exec) {args : List String}
    (hArgs : args ≠ []) :
    action.perform inherited settings args = .fail (.extraArguments action.name args) := by
  apply perform_of_refused
  rw [children_of_ne_exec inherited settings hAction, expectNoArgs, if_neg (by simpa using hArgs)]
  rfl

/-- A command whose options are refused does not run. -/
theorem perform_of_parse_eq_error {args : List String} {error : Options.ParseError}
    (h : ExecArgs.parse args = .error error) :
    Action.exec.perform inherited settings args = .fail (.arguments error) := by
  apply perform_of_refused
  rw [children, accept, h]
  rfl

/-- Nor does one whose variables are refused. -/
theorem perform_of_readVariables_eq_error {args : List String} {given : ExecArgs}
    {failure : Failure} (hParse : ExecArgs.parse args = .ok given)
    (h : readVariables given.env = .error failure) :
    Action.exec.perform inherited settings args = .fail failure := by
  apply perform_of_refused
  simp only [children, accept, hParse, h]
  rfl

variable (world : World σ) (state : σ)

/-- A failing console ends the action before its first step. -/
theorem run_lint_of_error {error : ConsoleError}
    (h : (world.answer .enableConsole state).1 = .error error) :
    (Action.lint.perform inherited settings []).run world state =
      ⟨.error (.console error), (world.answer .enableConsole state).2,
        [⟨.enableConsole, .error error⟩]⟩ := by
  have hSome : Action.lint ≠ .exec := by decide
  have hArgs : expectNoArgs Action.lint.name [] = .ok () := rfl
  rw [perform_of_ne_exec inherited settings hSome, hArgs]
  simp [prepare, prepareConsole, h]

/-- Both good answers are put on record, and then the steps run. -/
theorem run_lint_of_ok {status : ConsoleStatus}
    (h : (world.answer .enableConsole state).1 = .ok status) :
    let recording := Request.log ("ANSI console status: " ++ status.name)
    let steps := (runSteps inherited settings Action.lint.steps).run world
      (world.answer recording (world.answer .enableConsole state).2).2
    (Action.lint.perform inherited settings []).run world state =
      ⟨steps.result, steps.state,
        ⟨.enableConsole, .ok status⟩ :: ⟨recording, ()⟩ :: steps.trace⟩ := by
  have hSome : Action.lint ≠ .exec := by decide
  have hArgs : expectNoArgs Action.lint.name [] = .ok () := rfl
  rw [perform_of_ne_exec inherited settings hSome, hArgs]
  simp [prepare, prepareConsole, h]

/-- The console is asked once, whether it fails or not. -/
theorem consoleReplies_lint :
    Trace.consoleReplies ((Action.lint.perform inherited settings []).run world state).trace =
      [(world.answer .enableConsole state).1] := by
  cases hReply : (world.answer .enableConsole state).1 with
  | error error =>
      rw [run_lint_of_error inherited settings world state hReply]
      rfl
  | ok status =>
      have hSteps (ready : σ) := Task.consoleReplies_run
        (uses_runSteps inherited settings Action.lint.steps) world ready
      rw [run_lint_of_ok inherited settings world state hReply]
      exact congrArg (Except.ok status :: ·) (hSteps _)

/-- If the record of the answer is noticed by nobody, neither is the answer. -/
theorem run_lint_withConsole (status : ConsoleStatus)
    (hRecord : world.Alike
      (world.answer (.log ("ANSI console status: " ++ status.name))
        (world.answer .enableConsole state).2).2
      (world.answer .enableConsole state).2) :
    let outcome := (Action.lint.perform inherited settings []).run
      (world.withConsole (.ok status)) state
    let steps := (runSteps inherited settings Action.lint.steps).run world
      (world.answer .enableConsole state).2
    outcome.result = steps.result ∧ Trace.starts outcome.trace = Trace.starts steps.trace ∧
      ∀ stream, Trace.texts stream outcome.trace = Trace.texts stream steps.trace := by
  intro outcome steps
  let recording := Request.log ("ANSI console status: " ++ status.name)
  let recorded := (world.answer recording (world.answer .enableConsole state).2).2
  let replied := (runSteps inherited settings Action.lint.steps).run
    (world.withConsole (.ok status)) recorded
  have hOutcome : outcome = ⟨replied.result, replied.state,
      ⟨.enableConsole, .ok status⟩ :: ⟨recording, ()⟩ :: replied.trace⟩ :=
    run_lint_of_ok inherited settings (world.withConsole (.ok status)) state rfl
  -- The steps do not ask the console, so they cannot know which of the two worlds they are in.
  have hReplied : replied = (runSteps inherited settings Action.lint.steps).run world recorded :=
    Task.run_congr (uses_runSteps inherited settings Action.lint.steps)
      (fun request hRequest => world.answer_withConsole (.ok status) hRequest) recorded
  obtain ⟨hResult, hTrace⟩ := hRecord.run (runSteps inherited settings Action.lint.steps)
  rw [hOutcome, hReplied]
  refine ⟨hResult, ?_, fun stream => ?_⟩
  · simpa [recording] using congrArg Trace.starts hTrace
  · simpa [recording] using congrArg (Trace.texts stream) hTrace

end Action

/-- An action that refuses its arguments makes no request, so it starts nothing, writes nothing and
leaves the console alone. The steps of one action are preceded by a single question to the console,
which is the first request of all. If the call fails, it is also the last one. If it does not, the
steps run as they do alone after the answer was put on record. In a world of processes the record
goes unnoticed, and wherever it does, both answers have the same steps with the same replies, texts
and result. The other actions never ask the console. -/
theorem perform_console (inherited : Environment) (settings : Settings) (world : World σ)
    (state : σ) :
    let perform action args := (Action.perform inherited settings action args).run world state
    (∀ action args, action ≠ .exec → args ≠ [] →
      perform action args = ⟨.error (.extraArguments action.name args), state, []⟩) ∧
    (∀ args error, ExecArgs.parse args = .error error →
      perform .exec args = ⟨.error (.arguments error), state, []⟩) ∧
    (∀ args given, ExecArgs.parse args = .ok given → (∃ text ∈ given.env, ¬ IsAssignment text) →
      ∃ before text after, given.env = before ++ text :: after ∧
        (∀ earlier ∈ before, IsAssignment earlier) ∧ ¬ IsAssignment text ∧
        perform .exec args = ⟨.error (.malformedVariable text), state, []⟩) ∧
    (∀ action args, action ≠ .lint →
      Trace.consoleReplies (perform action args).trace = []) ∧
    let reply : Except ConsoleError ConsoleStatus := (world.answer .enableConsole state).1
    let asked := (world.answer .enableConsole state).2
    let record (status : ConsoleStatus) := Request.log ("ANSI console status: " ++ status.name)
    let steps := (runSteps inherited settings Action.lint.steps).run world
    Trace.consoleReplies (perform .lint []).trace = [reply] ∧
    (∀ error, reply = .error error → (Failure.console error).exitCode = 1 ∧
      perform .lint [] = ⟨.error (.console error), asked, [⟨.enableConsole, reply⟩]⟩) ∧
    (∀ status, reply = .ok status →
      let outcome := steps (world.answer (record status) asked).2
      perform .lint [] = ⟨outcome.result, outcome.state,
        ⟨.enableConsole, reply⟩ :: ⟨record status, ()⟩ :: outcome.trace⟩) ∧
    (∀ {τ : Type} start console (children : τ) left status,
      let processes := World.ofChildren start console
      processes.Alike (processes.answer (record status) (children, left)).2 (children, left)) ∧
    ∀ status, world.Alike (world.answer (record status) asked).2 asked →
      let outcome := (Action.lint.perform inherited settings []).run
        (world.withConsole (.ok status)) state
      outcome.result = (steps asked).result ∧
      Trace.starts outcome.trace = Trace.starts (steps asked).trace ∧
      ∀ stream, Trace.texts stream outcome.trace = Trace.texts stream (steps asked).trace := by
  intro perform
  refine ⟨?_, ?_, ?_, ?_, ?_, ?_, ?_, ?_, ?_⟩
  · intro action args hAction hArgs
    simp only [perform, Action.perform_of_args inherited settings hAction hArgs, Task.run_fail]
  · intro args error hParse
    simp only [perform, Action.perform_of_parse_eq_error inherited settings hParse, Task.run_fail]
  · intro args given hParse hMalformed
    obtain ⟨before, text, after, hEnv, hBefore, hText, hError⟩ :=
      Action.readVariables_of_malformed hMalformed
    refine ⟨before, text, after, hEnv, hBefore, hText, ?_⟩
    simp only [perform, Action.perform_of_readVariables_eq_error inherited settings hParse hError,
      Task.run_fail]
  · intro action args hAction
    exact Task.consoleReplies_run (Action.uses_perform inherited settings hAction args) world state
  · exact Action.consoleReplies_lint inherited settings world state
  · intro error hReply
    refine ⟨rfl, (Action.run_lint_of_error inherited settings world state hReply).trans ?_⟩
    rw [hReply]
  · intro status hReply
    refine (Action.run_lint_of_ok inherited settings world state hReply).trans ?_
    rw [hReply]
  · intro τ start console children left status
    exact World.ofChildren_alike start console children _ left
  · intro status hRecord
    exact Action.run_lint_withConsole inherited settings world state status hRecord

/-- A world whose state counts the processes, of which all but the first one fail. -/
def World.firstSucceeds : World (Nat × List String) :=
  ofChildren (fun _ count => (.ok (.exited (if count = 0 then 0 else 5)), count + 1))
    (fun count => (.ok .enabled, count))

set_option maxRecDepth 2000 in
/-- The first step goes through, and the failure of the second one is that of the action. -/
theorem result_runSteps_lint_firstSucceeds :
    ((runSteps .empty ⟨false, "/"⟩ Action.lint.steps).run .firstSucceeds (0, [])).result =
      .error (.execution
        (.nonZeroExit "target/release/examples/dlint benchmarks/benchmarks.ts" 5)) := rfl

/-- Arguments are refused, then a variable, and the console fails. Where the second process fails,
it does so whatever a console that works has answered. -/
theorem perform_console_cases :
    let settings : Settings := ⟨false, "/"⟩
    let world := World.firstSucceeds
    let broken : ConsoleError := ⟨"GetConsoleMode", .number 6⟩
    let words := ["--env", "A=1", "--env", "NOEQUALS", "true"]
    let recorded (status : ConsoleStatus) :=
      (world.answer (.log ("ANSI console status: " ++ status.name)) (0, [])).2
    let lint (reply : Except ConsoleError ConsoleStatus) :=
      (Action.lint.perform .empty settings []).run (world.withConsole reply) (0, [])
    ExecArgs.parse words = .ok ⟨false, false, false, ["A=1", "NOEQUALS"], ["true"]⟩ ∧
    ¬ IsAssignment "NOEQUALS" ∧
    (Action.format.perform .empty settings ["--write"]).run world (0, []) =
      ⟨.error (.extraArguments "format" ["--write"]), (0, []), []⟩ ∧
    (Action.exec.perform .empty settings words).run world (0, []) =
      ⟨.error (.malformedVariable "NOEQUALS"), (0, []), []⟩ ∧
    lint (.error broken) = ⟨.error (.console broken), (0, []), [⟨.enableConsole, .error broken⟩]⟩ ∧
    ∀ status, recorded status ≠ (0, []) ∧ world.Alike (recorded status) (0, []) ∧
      (lint (.ok status)).result = .error (.execution
        (.nonZeroExit "target/release/examples/dlint benchmarks/benchmarks.ts" 5)) := by
  intro settings world broken words recorded lint
  have hParse : ExecArgs.parse words =
      .ok ⟨false, false, false, ["A=1", "NOEQUALS"], ["true"]⟩ := rfl
  have hMalformed : ¬ IsAssignment "NOEQUALS" := by
    rintro ⟨name, value, -, -, hText⟩
    have hMark : '=' ∈ (name ++ "=" ++ value).toList := by simp
    rw [← hText] at hMark
    exact absurd hMark (by decide)
  obtain ⟨hArguments, -, hVariable, -, -, -, -, hAlike, hStatus⟩ :=
    perform_console .empty settings world (0, [])
  obtain ⟨-, -, -, -, -, hBroken, -, -, -⟩ :=
    perform_console .empty settings (world.withConsole (.error broken)) (0, [])
  obtain ⟨before, text, after, hEnv, hBefore, hText, hOutcome⟩ :=
    hVariable words _ hParse ⟨"NOEQUALS", by simp, hMalformed⟩
  have hRefused : text = "NOEQUALS" := by
    rcases before with _ | ⟨_, _ | ⟨_, _⟩⟩
    · obtain ⟨rfl, -⟩ := List.cons.inj hEnv
      exact absurd ⟨"A", "1", by decide, by decide, by decide⟩ hText
    · simp_all
    · simp at hEnv
  rw [hRefused] at hOutcome
  refine ⟨hParse, hMalformed, hArguments .format ["--write"] (by decide) (by decide), hOutcome,
    (hBroken broken rfl).2, fun status => ?_⟩
  have hUnnoticed : world.Alike (recorded status) (0, []) := hAlike _ _ 0 [] status
  have hRecorded : recorded status = (0, ["ANSI console status: " ++ status.name]) := rfl
  exact ⟨by simp [hRecorded], hUnnoticed,
    (hStatus status hUnnoticed).1.trans result_runSteps_lint_firstSucceeds⟩

end ToolGate
