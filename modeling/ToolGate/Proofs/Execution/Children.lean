import ToolGate.Action
import ToolGate.Proofs.Execution.FailFast

/-! The processes that an action has to run, and how their ends decide how the action ends. The
property `Carries` says this of one outcome. It holds of the run of a single process and passes to
sequences and loops, and so to every action. -/
namespace ToolGate

variable {σ α β : Type}

/-- All these processes were started, in order, and all succeeded. -/
def Finished (children : List SpawnRequest) (starts : List Start) : Prop :=
  starts.map Prod.fst = children ∧ ∀ start ∈ starts, childStatus start.2 = 0

/-- The exit status of a run that failed after these starts: that of the first process that failed,
and 1 if none did. -/
def failureStatus (starts : List Start) : Nat :=
  ((starts.map fun start => childStatus start.2).find? (· ≠ 0)).getD 1

theorem failureStatus_ne_zero (starts : List Start) : failureStatus starts ≠ 0 := by
  unfold failureStatus
  cases hFind : (starts.map fun start => childStatus start.2).find? (· ≠ 0) with
  | none => simp
  | some code => simpa using List.find?_some hFind

/-- The status fits into the eight bits that a parent can see. -/
theorem failureStatus_lt (starts : List Start) : failureStatus starts < 256 := by
  unfold failureStatus
  cases hFind : (starts.map fun start => childStatus start.2).find? (· ≠ 0) with
  | none => simp
  | some code =>
      obtain ⟨start, -, rfl⟩ := List.mem_map.1 (List.mem_of_find?_eq_some hFind)
      exact childStatus_lt start.2

/-- Processes that succeeded leave no mark on the status. -/
theorem failureStatus_append {first : List Start}
    (h : ∀ start ∈ first, childStatus start.2 = 0) (second : List Start) :
    failureStatus (first ++ second) = failureStatus second := by
  have hNone : (first.map fun start => childStatus start.2).find? (· ≠ 0) = none := by
    simpa using h
  rw [failureStatus, List.map_append, List.find?_append, hNone, Option.none_or, failureStatus]

/-- What finished can be taken off at the front. -/
theorem Finished.append {first second : List SpawnRequest} {earlier later : List Start}
    (hFirst : Finished first earlier) :
    Finished (first ++ second) (earlier ++ later) ↔ Finished second later := by
  simp only [Finished, List.map_append, hFirst.1, List.append_cancel_left_eq,
    List.forall_mem_append]
  exact and_congr_right fun _ => and_iff_right hFirst.2

/-- If everything finished, so did what was started first. -/
theorem Finished.of_append {first second : List SpawnRequest} {starts : List Start}
    (hPrefix : starts.map Prod.fst <+: first) (h : Finished (first ++ second) starts) :
    Finished first starts := by
  have hLength : first.length ≤ (starts.map Prod.fst).length := by
    rw [h.1]
    exact (List.prefix_append first second).length_le
  exact ⟨hPrefix.eq_of_length_le hLength, h.2⟩

/-- An outcome that is decided by these processes: it is a value if and only if all of them were
started and succeeded, and its error has the status of the first one that failed. -/
structure Carries (children : List SpawnRequest) (outcome : Outcome σ Failure α) : Prop where
  starts_prefix : (Trace.starts outcome.trace).map Prod.fst <+: children
  ok_iff : (∃ value, outcome.result = .ok value) ↔ Finished children (Trace.starts outcome.trace)
  exitCode_eq : ∀ failure, outcome.result = .error failure →
    failure.exitCode = failureStatus (Trace.starts outcome.trace)
  texts_err : Trace.texts .err outcome.trace = []

namespace Carries

variable {children first second : List SpawnRequest}

/-- An action succeeds if and only if all processes that it has to run were started and succeeded.
-/
theorem eq_ok_iff {outcome : Outcome σ Failure Unit} (h : Carries children outcome) :
    outcome.result = .ok () ↔ Finished children (Trace.starts outcome.trace) := by
  rw [← h.ok_iff]
  exact ⟨fun hOk => ⟨(), hOk⟩, fun ⟨_, hOk⟩ => hOk⟩

/-- The processes of a sequence are those of its parts. -/
theorem bind {outcome : Outcome σ Failure α} {next : α → σ → Outcome σ Failure β}
    (hFirst : Carries first outcome) (hNext : ∀ value state, Carries second (next value state)) :
    Carries (first ++ second) (outcome.bind next) := by
  rcases outcome with ⟨error | value, state, trace⟩
  -- The first part has not even finished its own processes, and the second one has not begun.
  · have hFailed : ¬ Finished first (Trace.starts trace) := by
      simpa using not_congr hFirst.ok_iff
    rw [Outcome.bind_error]
    refine ⟨hFirst.starts_prefix.trans (List.prefix_append first second), ?_,
      fun failure hFailure => hFirst.exitCode_eq failure (by simpa using hFailure),
      hFirst.texts_err⟩
    simpa using fun hBoth => hFailed (Finished.of_append hFirst.starts_prefix hBoth)
  · have hDone : Finished first (Trace.starts trace) := hFirst.ok_iff.1 ⟨value, rfl⟩
    have hRest := hNext value state
    rw [Outcome.bind_ok]
    refine ⟨?_, ?_, ?_, ?_⟩
    · simpa [hDone.1] using hRest.starts_prefix
    · simpa [hDone.append] using hRest.ok_iff
    · simpa [failureStatus_append hDone.2] using hRest.exitCode_eq
    · simp [hFirst.texts_err, hRest.texts_err]

/-- What is neither a start nor a complaint makes no difference. -/
theorem congr {outcome other : Outcome σ Failure α} (h : Carries children outcome)
    (hResult : other.result = outcome.result)
    (hStarts : Trace.starts other.trace = Trace.starts outcome.trace)
    (hErr : Trace.texts .err other.trace = Trace.texts .err outcome.trace) :
    Carries children other := by
  refine ⟨?_, ?_, ?_, ?_⟩
  · rw [hStarts]
    exact h.starts_prefix
  · rw [hResult, hStarts]
    exact h.ok_iff
  · rw [hResult, hStarts]
    exact h.exitCode_eq
  · rw [hErr]
    exact h.texts_err

/-- A part that starts and reports nothing carries no process. -/
theorem of_ok {value : α} {state : σ} {trace : List Exchange} (hStarts : Trace.starts trace = [])
    (hErr : Trace.texts .err trace = []) :
    Carries [] (⟨.ok value, state, trace⟩ : Outcome σ Failure α) := by
  refine ⟨?_, ?_, ?_, hErr⟩
  · simp [hStarts]
  · simp [hStarts, Finished]
  · simp

/-- A part that starts nothing but can fail belongs to the processes that are still to come. -/
theorem after_idle {outcome : Outcome σ Failure α} {next : α → σ → Outcome σ Failure β}
    (hChildren : children ≠ []) (hStarts : Trace.starts outcome.trace = [])
    (hErr : Trace.texts .err outcome.trace = [])
    (hCode : ∀ failure, outcome.result = .error failure → failure.exitCode = 1)
    (hNext : ∀ value state, Carries children (next value state)) :
    Carries children (outcome.bind next) := by
  rcases outcome with ⟨error | value, state, trace⟩
  · rw [Outcome.bind_error]
    refine ⟨?_, ?_, ?_, hErr⟩
    · simp_all
    · simpa [Finished, hStarts, eq_comm] using hChildren
    · simpa [hStarts, failureStatus] using hCode
  · rw [Outcome.bind_ok]
    refine (hNext value state).congr rfl ?_ ?_
    · simp_all
    · simp_all

/-- A process that is launched decides alone. -/
theorem launch (world : World σ) (line : String) (options : RunOptions) (process : SpawnRequest)
    (state : σ) :
    Carries [process] ((ToolGate.launch world line options process state).mapError .execution) := by
  let recorded := (world.answer (.log (spawnRecord line options process)) state).2
  let reply : Except OsError WaitStatus := (world.answer (.start process) recorded).1
  have hResult : (ToolGate.launch world line options process state).result =
      classify line reply := rfl
  have hStarts : Trace.starts (ToolGate.launch world line options process state).trace =
      [(process, reply)] := rfl
  have hIff := classify_eq_ok_iff line reply
  cases hEnd : classify line reply with
  | ok value =>
      have hZero : childStatus reply = 0 := hIff.1 hEnd
      refine ⟨?_, ?_, ?_, ?_⟩ <;>
        simp [Outcome.mapError, hResult, hStarts, hEnd, Finished, hZero]
  | error error =>
      have hCode := exitCode_of_classify hEnd
      have hNe : childStatus reply ≠ 0 := fun hZero => by simp [hIff.2 hZero] at hEnd
      refine ⟨?_, ?_, ?_, ?_⟩ <;>
        simp [Outcome.mapError, hResult, hStarts, hEnd, Finished, hNe,
          failureStatus, Failure.exitCode, hCode]

/-- The processes of a loop are those of its elements. -/
theorem forM {world : World σ} {task : β → Task Failure Unit} {child : β → Option SpawnRequest}
    {elements : List β} (h : ∀ element ∈ elements, ∀ state,
      Carries (child element).toList ((task element).run world state)) (state : σ) :
    Carries (elements.filterMap child) ((forM elements task).run world state) := by
  induction elements generalizing state with
  | nil => exact of_ok rfl rfl
  | cons element rest ih =>
      have hRest := ih fun next hNext => h next (List.mem_cons_of_mem element hNext)
      have hBoth := (h element List.mem_cons_self state).bind fun (_ : Unit) after => hRest after
      have hChildren : (element :: rest).filterMap child =
          (child element).toList ++ rest.filterMap child := by
        rw [List.filterMap_cons]
        cases child element <;> rfl
      rw [List.forM_cons, Task.run_seq, hChildren]
      exact hBoth

end Carries

variable (world : World σ) (inherited : Environment) (settings : Settings)

/-- A stage carries its process if it has one. Stages with an empty command do not occur. -/
theorem Stage.carries {stage : Stage} (h : ∀ title, stage ≠ .command title []) (state : σ) :
    Carries (process? inherited settings stage).toList
      ((task inherited settings stage).run world state) := by
  rw [run_task]
  rcases stage with text | ⟨title, _ | ⟨program, args⟩⟩
  · exact Carries.of_ok rfl rfl
  · exact absurd rfl (h title)
  · exact (Carries.launch world _ _ _ _).congr rfl rfl rfl

/-- Steps without empty commands are decided by the processes of their commands. -/
theorem runSteps_carries {steps : List Step} (h : ∀ step ∈ steps, [] ∉ step.commands) (state : σ) :
    Carries ((stages steps).filterMap (Stage.process? inherited settings))
      ((runSteps inherited settings steps).run world state) := by
  rw [Stage.runSteps_eq]
  refine Carries.forM (fun stage hStage => Stage.carries world inherited settings ?_) state
  rintro title rfl
  obtain ⟨step, hStep, hMem⟩ := List.mem_flatMap.1 hStage
  rcases List.mem_cons.1 hMem with hMem | hMem
  · cases hMem
  · obtain ⟨words, hWords, hEq⟩ := List.mem_map.1 hMem
    obtain ⟨-, rfl⟩ := Stage.command.inj hEq
    exact h step hStep hWords

namespace Action

/-- A single command that was accepted, and how it is to run. -/
structure Order where
  options : RunOptions
  program : String
  args : List String
  deriving DecidableEq

/-- The words of the command, the program simplified. -/
def Order.words (order : Order) : List String :=
  commandWords order.program order.args

/-- The command that words stand for, if they are accepted and it is not empty. -/
def accept (words : List String) : Except Failure Order :=
  match ExecArgs.parse words with
  | .error error => .error (.arguments error)
  | .ok given =>
    match readVariables given.env, given.command with
    | .error failure, _ => .error failure
    | .ok _, [] => .error (.execution .emptyCommand)
    | .ok overlay, program :: args => .ok ⟨execOptions settings given overlay, program, args⟩

/-- A single command is accepted or refused before anything is done. -/
theorem runExec_eq (words : List String) :
    runExec inherited settings words =
      match accept settings words with
      | .ok order =>
        (runCommand inherited (order.program :: order.args) order.options).mapError .execution
      | .error failure => .fail failure := by
  rw [runExec, accept]
  cases ExecArgs.parse words with
  | error error => rfl
  | ok given =>
      cases hOverlay : readVariables given.env with
      | error failure => simp [hOverlay]
      | ok overlay =>
          cases hCommand : given.command with
          | nil => simp [hOverlay, hCommand, runCommand, Task.mapError]
          | cons program args => simp [hOverlay, hCommand]

theorem readVariable_eq_error {text : String} {failure : Failure}
    (h : readVariable text = .error failure) : failure = .malformedVariable text := by
  unfold readVariable at h
  split at h
  · cases h
  · exact (Except.error.inj h).symm

/-- Variables are refused because of one that is malformed. -/
theorem readVariables_eq_error {texts : List String} {failure : Failure}
    (h : readVariables texts = .error failure) :
    ∃ text ∈ texts, failure = .malformedVariable text := by
  rw [readVariables, except_map_eq_error_iff] at h
  induction texts with
  | nil => cases h
  | cons text rest ih =>
      rw [List.mapM_cons] at h
      cases hText : readVariable text with
      | error error =>
          rw [hText] at h
          obtain rfl : error = failure := Except.error.inj h
          exact ⟨text, List.mem_cons_self, readVariable_eq_error hText⟩
      | ok pair =>
          cases hRest : rest.mapM readVariable with
          | error error =>
              rw [hText, hRest] at h
              obtain rfl : error = failure := Except.error.inj h
              obtain ⟨found, hFound, hEq⟩ := ih hRest
              exact ⟨found, List.mem_cons_of_mem text hFound, hEq⟩
          | ok pairs =>
              rw [hText, hRest] at h
              cases h

/-- The processes that an action has to run if it accepts its arguments. -/
def children (action : Action) (args : List String) : Except Failure (List SpawnRequest) :=
  match action with
  | .exec => (accept settings args).map fun order =>
    [spawnRequest inherited order.words order.options]
  | action => (expectNoArgs action.name args).map fun _ =>
    (stages action.steps).filterMap (Stage.process? inherited settings)

/-- What an action does before its first step. -/
def prepare : Action → Task Failure Unit
  | .lint => prepareConsole
  | _ => pure ()

/-- The actions with steps differ in their preparation and their steps only. -/
theorem perform_of_ne_exec {action : Action} (hAction : action ≠ .exec) (args : List String) :
    action.perform inherited settings args = (do
      Task.ofExcept (expectNoArgs action.name args)
      action.prepare
      runSteps inherited settings action.steps) := by
  cases action with
  | exec => exact absurd rfl hAction
  | format => rfl
  | lint => rfl

/-- The processes of an action with steps do not depend on its arguments, once these are accepted.
-/
theorem children_of_ne_exec {action : Action} (hAction : action ≠ .exec) (args : List String) :
    action.children inherited settings args = (expectNoArgs action.name args).map fun _ =>
      (stages action.steps).filterMap (Stage.process? inherited settings) := by
  cases action with
  | exec => exact absurd rfl hAction
  | format => rfl
  | lint => rfl

/-- An action with steps has commands, and none of them is empty. -/
theorem steps_of_ne_exec {action : Action} (hAction : action ≠ .exec) :
    (∀ step ∈ action.steps, [] ∉ step.commands) ∧
      (stages action.steps).filterMap (Stage.process? inherited settings) ≠ [] := by
  cases action with
  | exec => exact absurd rfl hAction
  | format => exact ⟨by decide, List.cons_ne_nil _ _⟩
  | lint => exact ⟨by decide, List.cons_ne_nil _ _⟩

/-- An action that does not accept its arguments fails before anything happens. -/
theorem perform_of_refused {action : Action} {args : List String} {failure : Failure}
    (h : action.children inherited settings args = .error failure) :
    action.perform inherited settings args = .fail failure := by
  by_cases hAction : action = .exec
  · subst hAction
    rw [children, except_map_eq_error_iff] at h
    rw [perform, runExec_eq, h]
  · rw [children_of_ne_exec inherited settings hAction, except_map_eq_error_iff] at h
    rw [perform_of_ne_exec inherited settings hAction, h, Task.ofExcept_error_bind]

/-- A command that is not accepted fails with the status of the program's own errors. -/
theorem exitCode_of_accept {args : List String} {failure : Failure}
    (h : accept settings args = .error failure) : failure.exitCode = 1 := by
  unfold accept at h
  split at h
  · cases h
    rfl
  · split at h
    · rename_i hVariables
      obtain rfl := Except.error.inj h
      obtain ⟨text, -, rfl⟩ := readVariables_eq_error hVariables
      rfl
    · cases h
      rfl
    · cases h

/-- A refusal has no status of a process. -/
theorem exitCode_of_refused {action : Action} {args : List String} {failure : Failure}
    (h : action.children inherited settings args = .error failure) : failure.exitCode = 1 := by
  by_cases hAction : action = .exec
  · subst hAction
    rw [children, except_map_eq_error_iff] at h
    exact exitCode_of_accept settings h
  · rw [children_of_ne_exec inherited settings hAction, except_map_eq_error_iff, expectNoArgs] at h
    split at h
    · cases h
    · cases h
      rfl

/-- A single command carries the one process that it starts. -/
theorem Order.carries (order : Order) (state : σ) :
    Carries [spawnRequest inherited order.words order.options]
      (((runCommand inherited (order.program :: order.args) order.options).mapError
        Failure.execution).run world state) := by
  rw [Task.run_mapError]
  cases hQuiet : order.options.quiet with
  | true =>
      rw [run_runCommand_of_quiet world inherited _ _ _ hQuiet]
      exact Carries.launch world _ _ _ _
  | false =>
      rw [run_runCommand_of_echo world inherited _ _ _ hQuiet]
      exact (Carries.launch world _ _ _ _).congr rfl rfl rfl

/-- A command is echoed unless it is to be quiet. -/
theorem Order.texts_out (order : Order) (state : σ) :
    Trace.texts .out (((runCommand inherited (order.program :: order.args) order.options).mapError
      Failure.execution).run world state).trace =
      if order.options.quiet then [] else [CommandLine.join Platform.host order.words ++ "\n"] := by
  rw [Task.run_mapError]
  cases hQuiet : order.options.quiet with
  | true =>
      rw [run_runCommand_of_quiet world inherited _ _ _ hQuiet]
      rfl
  | false =>
      rw [run_runCommand_of_echo world inherited _ _ _ hQuiet]
      rfl

/-- An action is prepared without a process and without a text. -/
theorem run_prepare (action : Action) (state : σ) :
    let outcome := action.prepare.run world state
    Trace.starts outcome.trace = [] ∧ (∀ stream, Trace.texts stream outcome.trace = []) ∧
      ∀ failure, outcome.result = .error failure → failure.exitCode = 1 := by
  cases action with
  | exec => simp [prepare]
  | format => simp [prepare]
  | lint =>
      cases hReply : (world.answer .enableConsole state).1 with
      | error error =>
          simp [prepare, prepareConsole, hReply]
          rfl
      | ok status => simp [prepare, prepareConsole, hReply]

/-- An action that accepts its arguments is decided by its processes. -/
theorem perform_carries {action : Action} {args : List String} {processes : List SpawnRequest}
    (h : action.children inherited settings args = .ok processes) (state : σ) :
    Carries processes ((action.perform inherited settings args).run world state) := by
  by_cases hAction : action = .exec
  · subst hAction
    obtain ⟨order, hAccept, rfl⟩ := (except_map_eq_ok_iff _ _ _).1 h
    rw [perform, runExec_eq, hAccept]
    exact Order.carries world inherited order state
  · rw [children_of_ne_exec inherited settings hAction] at h
    obtain ⟨value, hArgs, rfl⟩ := (except_map_eq_ok_iff _ _ _).1 h
    obtain ⟨hStarts, hTexts, hCode⟩ := run_prepare world action state
    obtain ⟨hCommands, hSome⟩ := steps_of_ne_exec inherited settings hAction
    rw [perform_of_ne_exec inherited settings hAction, hArgs, Task.ofExcept_ok_bind, Task.run_seq]
    exact Carries.after_idle hSome hStarts (hTexts .err) hCode fun _ after =>
      runSteps_carries world inherited settings hCommands after

/-- An action with steps shows nothing but the headers of its steps. -/
theorem texts_out_perform_of_ne_exec {action : Action} (hAction : action ≠ .exec)
    {args : List String} {processes : List SpawnRequest}
    (h : action.children inherited settings args = .ok processes) (state : σ) :
    ∃ lines : List String,
      Trace.texts .out ((action.perform inherited settings args).run world state).trace =
        lines.map (· ++ "\n") ∧
      ∀ line ∈ lines, ∃ step ∈ action.steps, line = settings.palette.header step.header := by
  rw [children_of_ne_exec inherited settings hAction] at h
  obtain ⟨value, hArgs, -⟩ := (except_map_eq_ok_iff _ _ _).1 h
  obtain ⟨-, hTexts, -⟩ := run_prepare world action state
  rw [perform_of_ne_exec inherited settings hAction, hArgs, Task.ofExcept_ok_bind, Task.run_seq]
  rcases hPrepare : action.prepare.run world state with ⟨error | ready, after, trace⟩
  · rw [hPrepare] at hTexts
    exact ⟨[], by simp [hTexts], by simp⟩
  · rw [hPrepare] at hTexts
    obtain ⟨lines, hLines, hHeaders⟩ :=
      texts_out_runSteps world inherited settings action.steps after
    exact ⟨lines, by simpa [hTexts] using hLines, hHeaders⟩

end Action

end ToolGate
