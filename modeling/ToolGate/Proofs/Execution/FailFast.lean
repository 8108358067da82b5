import ToolGate.Proofs.Execution.Command
import ToolGate.Step

/-! The runner of steps goes through its headers and commands in order and stops at the first
command that fails. Every command may change the state that the later ones find, so what becomes of
a command is only known once the ones before it have run. -/
namespace ToolGate

variable {σ ε δ α : Type}

/-- The error of an outcome, if it is one. -/
def Outcome.error? (outcome : Outcome σ ε α) : Option ε :=
  match outcome.result with
  | .ok _ => none
  | .error error => some error

/-- What becomes of every element of a list, each from the state that the one before it left. -/
def sweep (fate : α → σ → Outcome σ ε Unit) : List α → σ → List (Outcome σ ε Unit)
  | [], _ => []
  | element :: rest, state => fate element state :: sweep fate rest (fate element state).state

/-- The last element of a sweep begins where the earlier ones have led. -/
theorem sweep_concat (fate : α → σ → Outcome σ ε Unit) (elements : List α) (last : α) (state : σ) :
    ∃ after, sweep fate (elements ++ [last]) state =
      sweep fate elements state ++ [fate last after] := by
  induction elements generalizing state with
  | nil => exact ⟨state, rfl⟩
  | cons element rest ih =>
      obtain ⟨after, hAfter⟩ := ih (fate element state).state
      exact ⟨after, by simp [sweep, hAfter]⟩

/-- The error of a sweep is that of its last element, from some state. -/
theorem error?_of_sweep_concat {fate : α → σ → Outcome σ ε Unit} {elements : List α} {last : α}
    {state : σ} {earlier : List (Option ε)} {error : ε}
    (h : (sweep fate (elements ++ [last]) state).map Outcome.error? = earlier ++ [some error]) :
    ∃ after, (fate last after).error? = some error := by
  obtain ⟨after, hAfter⟩ := sweep_concat fate elements last state
  rw [hAfter, List.map_append] at h
  exact ⟨after, List.singleton_inj.1 (List.append_inj_right' h rfl)⟩

/-- What can be read off every part of a trace alone can be read off the whole, in order. -/
theorem read_sweep {β : Type} {fate : α → σ → Outcome σ ε Unit} (read : List Exchange → List β)
    (share : α → Option β) (hNil : read [] = [])
    (hAppend : ∀ first second, read (first ++ second) = read first ++ read second)
    (hShare : ∀ element state, read (fate element state).trace = (share element).toList)
    (elements : List α) (state : σ) :
    read ((sweep fate elements state).flatMap Outcome.trace) = elements.filterMap share := by
  induction elements generalizing state with
  | nil => exact hNil
  | cons element rest ih =>
      rw [sweep, List.flatMap_cons, hAppend, hShare, ih, List.filterMap_cons]
      cases share element <;> rfl

section Loop

variable {world : World σ} {task : α → Task δ Unit} {fate : α → σ → Outcome σ ε Unit}
  {wrap : ε → δ}

/-- A loop ends well if and only if no element fails after the ones before it. -/
theorem run_forM_eq_ok_iff
    (hFate : ∀ element state, (task element).run world state = (fate element state).mapError wrap)
    (elements : List α) (state : σ) :
    ((forM elements task).run world state).result = .ok () ↔
      ∀ outcome ∈ sweep fate elements state, outcome.error? = none := by
  induction elements generalizing state with
  | nil => simp [sweep]
  | cons element rest ih =>
      rw [List.forM_cons, Task.run_seq, hFate, sweep, List.forall_mem_cons]
      rcases hHead : fate element state with ⟨error | _, after, trace⟩
      · simp [Outcome.error?]
      · simpa [Outcome.error?] using ih after

/-- A loop gets through the elements up to the first that fails, or through all, and its error is
the one of that element. -/
theorem run_forM_reached
    (hFate : ∀ element state, (task element).run world state = (fate element state).mapError wrap)
    (elements : List α) (state : σ) :
    let outcome := (forM elements task).run world state
    ∃ reached rest, elements = reached ++ rest ∧
      outcome.trace = (sweep fate reached state).flatMap Outcome.trace ∧
      ((outcome.result = .ok () ∧ rest = []) ∨
        ∃ passed last error, reached = passed ++ [last] ∧
          outcome.result = .error (wrap error) ∧
          (sweep fate reached state).map Outcome.error? =
            List.replicate passed.length none ++ [some error]) := by
  induction elements generalizing state with
  | nil => exact ⟨[], [], rfl, rfl, Or.inl ⟨rfl, rfl⟩⟩
  | cons element rest ih =>
      intro outcome
      have hOutcome : outcome =
          ((fate element state).mapError wrap).bind fun _ => (forM rest task).run world := by
        rw [← hFate]
        exact Task.run_seq world state (task element) fun _ => forM rest task
      rcases hHead : fate element state with ⟨error | _, after, trace⟩
      · rw [hHead] at hOutcome
        refine ⟨[element], rest, rfl, ?_, Or.inr ⟨[], element, error, rfl, ?_, ?_⟩⟩
        · simp [hOutcome, sweep, hHead]
        · simp [hOutcome]
        · simp [sweep, hHead, Outcome.error?]
      · rw [hHead] at hOutcome
        obtain ⟨reached, skipped, rfl, hTrace, hEnd⟩ := ih after
        refine ⟨element :: reached, skipped, rfl, ?_, ?_⟩
        · simpa [hOutcome, sweep, hHead] using hTrace
        · rcases hEnd with hDone | ⟨passed, last, error, rfl, hResult, hErrors⟩
          · exact Or.inl (by simpa [hOutcome] using hDone)
          · refine Or.inr ⟨element :: passed, last, error, rfl, ?_, ?_⟩
            · simpa [hOutcome] using hResult
            · simpa [sweep, hHead, Outcome.error?, List.replicate_succ] using hErrors

end Loop

/-- What the runner comes to: the header of a step, or one of its commands. -/
inductive Stage where
  | header (text : String)
  | command (header : String) (words : List String)
  deriving DecidableEq, Repr

/-- The header of a step and its commands, in order. -/
def Step.stages (step : Step) : List Stage :=
  .header step.header :: step.commands.map (.command step.header)

/-- Everything that the runner comes to when no command fails. -/
def stages (steps : List Step) : List Stage :=
  steps.flatMap Step.stages

/-- The process of a command of a step: started without a shell, in the root of the project, and
with the environment of the caller. -/
def stepProcess (inherited : Environment) (settings : Settings) (program : String)
    (args : List String) : SpawnRequest where
  program := locateProgram (normalizeProgram Platform.host program) (some settings.root)
  args := args
  environment := inherited
  directory := some settings.root

namespace Stage

/-- The header that is shown at a stage. -/
def header? : Stage → Option String
  | .header text => some text
  | .command _ _ => none

variable (inherited : Environment) (settings : Settings) (world : World σ)

/-- The process that is started at a stage. An empty command has none. -/
def process? : Stage → Option SpawnRequest
  | .header _ => none
  | .command _ [] => none
  | .command _ (program :: args) => some (stepProcess inherited settings program args)

/-- What becomes of a stage. A header is one line. A command leaves a record and, unless it is
empty, its process is launched without an echo. -/
def fate (stage : Stage) (state : σ) : Outcome σ ExecutionError Unit :=
  match stage with
  | .header text =>
    let shown := Request.write .out (settings.palette.header text ++ "\n")
    ⟨.ok (), (world.answer shown state).2, [⟨shown, ()⟩]⟩
  | .command title [] =>
    let running := Request.log ("[" ++ title ++ "] running " ++ Text.quotedList [])
    ⟨.error .emptyCommand, (world.answer running state).2, [⟨running, ()⟩]⟩
  | .command title (program :: args) =>
    let running := Request.log ("[" ++ title ++ "] running " ++ Text.quotedList (program :: args))
    let rest := launch world (CommandLine.join Platform.host (commandWords program args))
      (Step.options settings) (stepProcess inherited settings program args)
      (world.answer running state).2
    { rest with trace := ⟨running, ()⟩ :: rest.trace }

/-- What the runner does at a stage. -/
def task : Stage → Task Failure Unit
  | .header text => Task.writeLine .out (settings.palette.header text)
  | .command title words => Step.runOne inherited settings ⟨title, []⟩ words

theorem run_task (stage : Stage) (state : σ) :
    (task inherited settings stage).run world state =
      (fate inherited settings world stage state).mapError .execution := by
  cases stage with
  | header text => rfl
  | command title words =>
      cases words with
      | nil => rfl
      | cons program args =>
          have hQuiet : (Step.options settings).quiet = true := rfl
          rw [task, Step.runOne, Task.run_seq, Task.run_log, Outcome.bind_ok, Task.run_mapError,
            run_runCommand_of_quiet world inherited program args _ hQuiet]
          rfl

/-- Only a command can fail. -/
theorem eq_command_of_error? {stage : Stage} {state : σ} {error : ExecutionError}
    (h : (fate inherited settings world stage state).error? = some error) :
    ∃ title words, stage = .command title words := by
  cases stage with
  | header text => simp [fate, Outcome.error?] at h
  | command title words => exact ⟨title, words, rfl⟩

/-- A command has one process, and a header none. -/
theorem starts_fate (stage : Stage) (state : σ) :
    (Trace.starts (fate inherited settings world stage state).trace).map Prod.fst =
      (process? inherited settings stage).toList := by
  rcases stage with _ | ⟨_, _ | _⟩ <;> simp [fate, process?]

/-- A header is all that a stage writes. -/
theorem texts_out_fate (stage : Stage) (state : σ) :
    Trace.texts .out (fate inherited settings world stage state).trace =
      (stage.header?.map fun header => settings.palette.header header ++ "\n").toList := by
  rcases stage with _ | ⟨_, _ | _⟩ <;> simp [fate, header?]

/-- Stages write nothing to the error stream. -/
theorem texts_err_fate (stage : Stage) (state : σ) :
    Trace.texts .err (fate inherited settings world stage state).trace = [] := by
  rcases stage with _ | ⟨_, _ | _⟩ <;> simp [fate]

/-- The lines that a course shows are the headers in it. -/
theorem texts_out_sweep (reached : List Stage) (state : σ) :
    Trace.texts .out ((sweep (fate inherited settings world) reached state).flatMap
      Outcome.trace) = (reached.filterMap header?).map (settings.palette.header · ++ "\n") := by
  rw [List.map_filterMap]
  exact read_sweep (Trace.texts .out) _ rfl (by simp) (texts_out_fate inherited settings world)
    reached state

/-- Two loops, one inside of the other, are one loop over stages. -/
theorem runSteps_eq (steps : List Step) :
    runSteps inherited settings steps = forM (stages steps) (task inherited settings) := by
  induction steps with
  | nil => rfl
  | cons step rest ih =>
      have hStep : Step.run inherited settings step =
          forM step.stages (task inherited settings) := by
        simp [Step.run, Step.stages, task]
        rfl
      rw [stages, List.flatMap_cons, List.forM_append, ← hStep, ← stages, ← ih]
      rfl

end Stage

theorem header_mem_of_stages {steps : List Step} {text : String}
    (h : .header text ∈ stages steps) : ∃ step ∈ steps, step.header = text := by
  obtain ⟨step, hStep, hText⟩ := List.mem_flatMap.1 h
  rcases List.mem_cons.1 hText with hText | hText
  · exact ⟨step, hStep, (Stage.header.inj hText).symm⟩
  · simp at hText

/-- A command that the runner comes to belongs to a step whose header was shown first, after the
earlier steps and the earlier commands of its own. -/
theorem stages_eq_append_cons {steps : List Step} {passed rest : List Stage} {title : String}
    {words : List String} (h : stages steps = passed ++ .command title words :: rest) :
    ∃ before step after done skipped, steps = before ++ step :: after ∧
      step.commands = done ++ words :: skipped ∧ title = step.header ∧
      passed = stages before ++ .header step.header :: done.map (.command step.header) := by
  induction steps generalizing passed with
  | nil => simp [stages] at h
  | cons step steps ih =>
      rw [stages, List.flatMap_cons, ← stages, List.append_eq_append_iff] at h
      rcases h with ⟨later, rfl, hLater⟩ | ⟨inner, hInner, hRest⟩
      · obtain ⟨before, found, after, done, skipped, rfl, hCommands, rfl, rfl⟩ := ih hLater
        refine ⟨step :: before, found, after, done, skipped, rfl, hCommands, rfl, ?_⟩
        simp [stages]
      · cases inner with
        | nil =>
            obtain ⟨_, _, _, _, _, _, _, _, hPassed⟩ := @ih [] hRest.symm
            simp at hPassed
        | cons stage inner =>
            obtain ⟨rfl, rfl⟩ := List.cons.inj hRest
            rw [Step.stages, List.cons_eq_append_iff] at hInner
            obtain ⟨rfl, hHead⟩ | ⟨later, rfl, hMap⟩ := hInner
            · simp at hHead
            · obtain ⟨done, left, hCommands, rfl, hLeft⟩ := List.map_eq_append_iff.1 hMap
              obtain ⟨found, skipped, rfl, hFound, -⟩ := List.map_eq_cons_iff.1 hLeft
              obtain ⟨rfl, rfl⟩ := Stage.command.inj hFound
              exact ⟨[], step, steps, done, skipped, rfl, hCommands, rfl, rfl⟩

variable (world : World σ) (inherited : Environment) (settings : Settings)

/-- Every line that the runner shows is the header of a step. -/
theorem texts_out_runSteps (steps : List Step) (state : σ) :
    ∃ lines : List String,
      Trace.texts .out ((runSteps inherited settings steps).run world state).trace =
        lines.map (· ++ "\n") ∧
      ∀ line ∈ lines, ∃ step ∈ steps, line = settings.palette.header step.header := by
  obtain ⟨reached, rest, hSplit, hTrace, -⟩ :=
    run_forM_reached (Stage.run_task inherited settings world) (stages steps) state
  refine ⟨(reached.filterMap Stage.header?).map settings.palette.header, ?_, ?_⟩
  · rw [Stage.runSteps_eq, hTrace, Stage.texts_out_sweep, List.map_map]
    rfl
  · intro line hLine
    obtain ⟨header, hHeader, rfl⟩ := List.mem_map.1 hLine
    obtain ⟨stage, hStage, hText⟩ := List.mem_filterMap.1 hHeader
    cases stage with
    | header text =>
        obtain ⟨step, hStep, rfl⟩ :=
          header_mem_of_stages (hSplit ▸ List.mem_append_left rest hStage)
        exact ⟨step, hStep, congrArg settings.palette.header (Option.some.inj hText).symm⟩
    | command title words => cases hText

/-- The runner issues the commands of the steps, each once and in order, up to the first one that
fails, or all of them, and nothing after that. It shows the headers of the steps that it comes to,
each before the commands of its step. Every process is started quietly, without a shell, in the root
and with the caller's environment. The run ends well if and only if no command fails, and otherwise
with the error of that first command. -/
theorem runSteps_failFast (steps : List Step) (state : σ) :
    let outcome := (runSteps inherited settings steps).run world state
    let fates := fun reached => sweep (Stage.fate inherited settings world) reached state
    (outcome.result = .ok () ↔ ∀ fate ∈ fates (stages steps), fate.error? = none) ∧
    ∃ reached,
      outcome.trace = (fates reached).flatMap Outcome.trace ∧
      (Trace.starts outcome.trace).map Prod.fst =
        reached.filterMap (Stage.process? inherited settings) ∧
      Trace.texts .out outcome.trace =
        (reached.filterMap Stage.header?).map (settings.palette.header · ++ "\n") ∧
      Trace.texts .err outcome.trace = [] ∧
      ((outcome.result = .ok () ∧ reached = stages steps) ∨
        ∃ before step after done command skipped error,
          steps = before ++ step :: after ∧
          step.commands = done ++ command :: skipped ∧
          reached = stages before ++
            .header step.header :: (done ++ [command]).map (.command step.header) ∧
          (fates reached).map Outcome.error? =
            List.replicate (reached.length - 1) none ++ [some error] ∧
          outcome.result = .error (.execution error)) := by
  intro outcome fates
  have hTask := Stage.run_task inherited settings world
  have hOutcome : outcome =
      (forM (stages steps) (Stage.task inherited settings)).run world state := by
    rw [← Stage.runSteps_eq]
  refine ⟨hOutcome ▸ run_forM_eq_ok_iff hTask (stages steps) state, ?_⟩
  obtain ⟨reached, rest, hSplit, hTrace, hEnd⟩ :=
    run_forM_reached hTask (stages steps) state
  rw [← hOutcome] at hTrace hEnd
  refine ⟨reached, hTrace, ?_, ?_, ?_, ?_⟩
  · rw [hTrace]
    exact read_sweep (fun trace => (Trace.starts trace).map Prod.fst) _ rfl (by simp)
      (Stage.starts_fate inherited settings world) reached state
  · rw [hTrace, Stage.texts_out_sweep]
  · rw [hTrace, read_sweep (Trace.texts .err) (fun _ => none) rfl (by simp)
      (Stage.texts_err_fate inherited settings world) reached state]
    simp
  · rcases hEnd with ⟨hOk, rfl⟩ | ⟨passed, last, error, rfl, hError, hErrors⟩
    · exact Or.inl ⟨hOk, by simpa using hSplit.symm⟩
    · obtain ⟨after, hLast⟩ := error?_of_sweep_concat hErrors
      obtain ⟨title, command, rfl⟩ := Stage.eq_command_of_error? inherited settings world hLast
      rw [List.append_assoc] at hSplit
      obtain ⟨before, step, later, done, skipped, hSteps, hCommands, rfl, rfl⟩ :=
        stages_eq_append_cons hSplit
      refine Or.inr ⟨before, step, later, done, command, skipped, error, hSteps, hCommands, ?_, ?_,
        hError⟩
      · simp
      · simpa [fates] using hErrors

end ToolGate
