import ToolGate.Gate
import ToolGate.Proofs.CommandLine.PosixLines
import ToolGate.Proofs.Execution.Children
import ToolGate.Proofs.Execution.Lines

/-! The exit status of the whole program, and what a user can tell from the last lines. An accepted
command line comes down to a plan: an action and the processes that it has to run. Without a plan
the program fails at once, and with a plan the ends of the processes decide. -/
namespace ToolGate

variable {σ : Type}

/-- An action is found by its name and by each of its aliases, and by nothing else. -/
theorem Action.find?_eq_some_iff (name : String) (action : Action) :
    Action.find? name = some action ↔ name = action.name ∨ name ∈ action.aliases := by
  constructor
  · intro h
    have hMatch := List.find?_some h
    rcases Bool.or_eq_true_iff.1 hMatch with hName | hAlias
    · exact Or.inl (beq_iff_eq.1 hName).symm
    · exact Or.inr (List.contains_iff_mem.1 hAlias)
  · intro h
    cases action with
    | exec =>
        simp only [Action.name, Action.aliases, List.mem_singleton] at h
        rcases h with rfl | rfl <;> decide
    | format =>
        simp only [Action.name, Action.aliases, List.mem_singleton] at h
        rcases h with rfl | rfl <;> decide
    | lint =>
        simp only [Action.name, Action.aliases, List.not_mem_nil, or_false] at h
        subst h
        decide

/-- The root of the project, from all sources. -/
def Surroundings.resolveRoot (surroundings : Surroundings) (rootFlag : Option String) :
    Except PathError String :=
  match surroundings.current with
  | .error cause => .error (.rootInvalid "." cause)
  | .ok current =>
    Settings.chooseRoot surroundings.files rootFlag
      (surroundings.environment.get? rootVariable) current

/-- No variables, and a project in the current directory. -/
def Surroundings.bare : Surroundings where
  environment := .empty
  current := .ok "/w"
  files := { isFile := (· = "/w/Cargo.toml"), realPath := .ok }

/-- Settings are found without a process or a text. A root that was found is left on record. -/
theorem run_loadSettings (world : World σ) (surroundings : Surroundings) (color : Bool)
    (rootFlag : Option String) (state : σ) :
    (surroundings.loadSettings color rootFlag).run world state =
      match surroundings.resolveRoot rootFlag with
      | .error error => ⟨.error error, state, []⟩
      | .ok root =>
        let resolved := Request.log ("Resolved project root: " ++ root)
        ⟨.ok { color, root }, (world.answer resolved state).2, [⟨resolved, ()⟩]⟩ := by
  rw [Surroundings.loadSettings, Surroundings.resolveRoot]
  cases surroundings.current with
  | error cause => rfl
  | ok current =>
      cases hRoot : Settings.chooseRoot surroundings.files rootFlag
        (surroundings.environment.get? rootVariable) current with
      | error error => simp [Settings.fromSources, hRoot]
      | ok root => simp [Settings.fromSources, hRoot]

namespace Gate

/-- What an invocation comes down to once it is accepted: an action, its settings and arguments, and
the processes that it has to run. -/
structure Plan where
  action : Action
  settings : Settings
  processes : List SpawnRequest

/-- The plan of an invocation. The action is looked up first, then the root, and then the action
looks at its arguments. -/
def plan (surroundings : Surroundings) (palette : Palette) (invocation : Invocation) :
    Except Failure Plan :=
  match Action.find? invocation.action with
  | none => .error (.unknownAction invocation.action (Action.all.map Action.name))
  | some action =>
    match surroundings.resolveRoot invocation.root with
    | .error error => .error (.root error)
    | .ok root =>
      (action.children surroundings.environment ⟨palette.enabled, root⟩ invocation.args).map
        (⟨action, ⟨palette.enabled, root⟩, ·⟩)

/-- A plan exists if and only if nothing was refused: not the name of the action, nor the root, nor
the arguments. -/
theorem plan_eq_ok_iff (surroundings : Surroundings) (palette : Palette) (invocation : Invocation)
    (action : Action) (settings : Settings) (processes : List SpawnRequest) :
    plan surroundings palette invocation = .ok ⟨action, settings, processes⟩ ↔
      (invocation.action = action.name ∨ invocation.action ∈ action.aliases) ∧
      settings.color = palette.enabled ∧
      surroundings.resolveRoot invocation.root = .ok settings.root ∧
      action.children surroundings.environment settings invocation.args = .ok processes := by
  rw [← Action.find?_eq_some_iff]
  constructor
  · intro h
    cases hFound : Action.find? invocation.action with
    | none => simp [plan, hFound] at h
    | some found =>
        cases hRoot : surroundings.resolveRoot invocation.root with
        | error error => simp [plan, hFound, hRoot] at h
        | ok root =>
            simp only [plan, hFound, hRoot] at h
            obtain ⟨children, hChildren, hPlan⟩ := (except_map_eq_ok_iff _ _ _).1 h
            obtain ⟨rfl, rfl, rfl⟩ := Plan.mk.inj hPlan
            exact ⟨rfl, rfl, rfl, hChildren⟩
  · rintro ⟨hFound, hColor, hRoot, hChildren⟩
    obtain ⟨color, root⟩ := settings
    obtain rfl : color = palette.enabled := hColor
    simp [plan, hFound, hRoot, hChildren, Except.map]

variable (world : World σ) (surroundings : Surroundings) (palette : Palette)
  (invocation : Invocation) (state : σ)

/-- Without a plan nothing is started or written, and the failure has no status of a process. -/
theorem run_dispatch_of_error {failure : Failure}
    (h : plan surroundings palette invocation = .error failure) :
    let outcome := (dispatch surroundings palette invocation).run world state
    outcome.result = .error failure ∧ failure.exitCode = 1 ∧ Trace.starts outcome.trace = [] ∧
      ∀ stream, Trace.texts stream outcome.trace = [] := by
  cases hFound : Action.find? invocation.action with
  | none =>
      simp only [plan, hFound, Except.error.injEq] at h
      subst h
      simp [dispatch, hFound, Failure.exitCode]
  | some action =>
      cases hRoot : surroundings.resolveRoot invocation.root with
      | error error =>
          simp only [plan, hFound, hRoot, Except.error.injEq] at h
          subst h
          simp [dispatch, hFound, hRoot, run_loadSettings, Failure.exitCode]
      | ok root =>
          simp only [plan, hFound, hRoot, except_map_eq_error_iff] at h
          have hCode := Action.exitCode_of_refused _ _ h
          simp [dispatch, hFound, hRoot, run_loadSettings, Action.perform_of_refused _ _ h, hCode]

/-- With a plan the action decides, and its success is marked. -/
theorem run_dispatch_of_ok {planned : Plan}
    (h : plan surroundings palette invocation = .ok planned) :
    let outcome := (dispatch surroundings palette invocation).run world state
    ∃ after, let performed := (planned.action.perform surroundings.environment planned.settings
        invocation.args).run world after
      outcome.result = performed.result ∧
      Trace.starts outcome.trace = Trace.starts performed.trace ∧
      Trace.texts .err outcome.trace = Trace.texts .err performed.trace ∧
      Trace.texts .out outcome.trace = Trace.texts .out performed.trace ++
        (match performed.result with
          | .ok _ => [palette.ok ++ "\n"]
          | .error _ => []) := by
  obtain ⟨action, ⟨color, root⟩, processes⟩ := planned
  obtain ⟨hFound, rfl, hRoot, -⟩ := (plan_eq_ok_iff _ _ _ _ _ _).1 h
  rw [← Action.find?_eq_some_iff] at hFound
  -- Two records are left before the action begins.
  let recorded := (world.answer (.log invocation.record) state).2
  let resolved := (world.answer (.log ("Resolved project root: " ++ root)) recorded).2
  refine ⟨resolved, ?_⟩
  rw [dispatch, hFound]
  simp only [Task.run_seq, Task.run_log, Outcome.bind_ok]
  simp only [Task.run_mapError, run_loadSettings, hRoot]
  simp only [Outcome.mapError_ok, Outcome.bind_ok, Task.run_seq]
  rcases (action.perform surroundings.environment ⟨palette.enabled, root⟩ invocation.args).run world
    resolved with ⟨error | value, after, trace⟩
  · simp
  · simp

end Gate

/-- A command line is shown like the marker of success only if `ok` is its only word and the marker
has no colours. -/
theorem lastLine_join_eq_ok_iff (palette : Palette) (words : List String) :
    lastLine (linesText [CommandLine.join Platform.host words]) = palette.ok.toList ↔
      palette.enabled = false ∧ words = ["ok"] := by
  obtain ⟨enabled⟩ := palette
  constructor
  · intro h
    rcases eq_or_exists_of_lastLine h with hLine | ⟨before, hLine⟩
    · cases enabled with
      | true =>
          have hHead := CommandLine.head_of_join hLine
          exact absurd hHead (by decide)
      | false =>
          refine ⟨rfl, CommandLine.join_posix_injective (String.toList_inj.1 ?_)⟩
          exact hLine.trans (by decide)
    · have hQuote := CommandLine.quote_mem_of_join_newline hLine
      cases enabled <;> exact absurd hQuote (by decide)
  · rintro ⟨hPalette, rfl⟩
    obtain rfl : enabled = false := hPalette
    decide

/-- The words are those of the echo, so the program has been normalised before. -/
example : lastLine (linesText [CommandLine.join Platform.host (commandWords "a/../ok" [])]) =
    (Palette.mk false).ok.toList := by decide

/-- No header is shown like the marker of success. -/
theorem lastLine_headers_ne_ok {palette : Palette} {action : Action} {lines : List String}
    (h : ∀ line ∈ lines, ∃ step ∈ action.steps, line = palette.header step.header) :
    lastLine (linesText lines) ≠ palette.ok.toList := by
  have hHeaders : ∀ step ∈ action.steps,
      '\n' ∉ (palette.header step.header).toList ∧ palette.header step.header ≠ palette.ok := by
    obtain ⟨_ | _⟩ := palette <;> cases action <;> decide
  rcases List.eq_nil_or_concat lines with rfl | ⟨before, line, rfl⟩
  · obtain ⟨_ | _⟩ := palette <;> decide
  · obtain ⟨step, hStep, rfl⟩ := h line (by simp)
    obtain ⟨hNewline, hNe⟩ := hHeaders step hStep
    rw [List.concat_eq_append, lastLine_linesText_concat before hNewline]
    exact fun hEq => hNe (String.toList_inj.1 hEq)

theorem nil_ne_ok (palette : Palette) : lastLine (linesText []) ≠ palette.ok.toList := by
  obtain ⟨_ | _⟩ := palette <;> decide

namespace Gate

variable (world : World σ) (surroundings : Surroundings) (palette : Palette)
  (invocation : Invocation) (state : σ)

/-- The invocation runs a command with an echo, and once the program is normalised the command is
the single word `ok`, as it is for `./ok` and `a/../ok`. -/
def EchoesOk : Prop :=
  palette.enabled = false ∧ Action.find? invocation.action = some .exec ∧
    ∃ root order, surroundings.resolveRoot invocation.root = .ok root ∧
      Action.accept ⟨palette.enabled, root⟩ invocation.args = .ok order ∧
      order.options.quiet = false ∧ order.words = ["ok"]

/-- A command that is echoed like the marker has been accepted. -/
theorem exists_plan_of_echoesOk (h : EchoesOk surroundings palette invocation) :
    ∃ planned, plan surroundings palette invocation = .ok planned ∧ planned.action = .exec := by
  obtain ⟨-, hFound, root, order, hRoot, hAccept, -⟩ := h
  have hChildren : Action.children surroundings.environment ⟨palette.enabled, root⟩ .exec
      invocation.args = .ok [spawnRequest surroundings.environment order.words order.options] := by
    rw [Action.children, hAccept]
    rfl
  exact ⟨⟨.exec, ⟨palette.enabled, root⟩, _⟩, (plan_eq_ok_iff _ _ _ _ _ _).2
    ⟨(Action.find?_eq_some_iff _ _).1 hFound, rfl, hRoot, hChildren⟩, rfl⟩

/-- Before its end an action shows lines, and they end like a success only if they are an echo. -/
theorem exists_lines {planned : Plan} (h : plan surroundings palette invocation = .ok planned) :
    ∃ lines : List String,
      Trace.texts .out ((planned.action.perform surroundings.environment planned.settings
        invocation.args).run world state).trace = lines.map (· ++ "\n") ∧
      (lastLine (linesText lines) = palette.ok.toList ↔
        EchoesOk surroundings palette invocation) := by
  obtain ⟨action, ⟨color, root⟩, processes⟩ := planned
  obtain ⟨hName, rfl, hRoot, hChildren⟩ := (plan_eq_ok_iff _ _ _ _ _ _).1 h
  by_cases hExec : action = .exec
  · subst hExec
    obtain ⟨order, hAccept, -⟩ := (except_map_eq_ok_iff _ _ _).1 hChildren
    have hTexts := Action.Order.texts_out world surroundings.environment order state
    refine ⟨if order.options.quiet then [] else [CommandLine.join Platform.host order.words],
      ?_, ?_⟩
    · rw [Action.perform, Action.runExec_eq, hAccept]
      refine hTexts.trans ?_
      split <;> rfl
    · rw [← Action.find?_eq_some_iff] at hName
      constructor
      · intro hLast
        cases hQuiet : order.options.quiet with
        | true => exact absurd (by simpa [hQuiet] using hLast) (nil_ne_ok palette)
        | false =>
            obtain ⟨hColor, hWords⟩ := (lastLine_join_eq_ok_iff palette order.words).1
              (by simpa [hQuiet] using hLast)
            exact ⟨hColor, hName, root, order, hRoot, hAccept, hQuiet, hWords⟩
      · rintro ⟨hColor, -, other, given, hOther, hGiven, hQuiet, hWords⟩
        obtain rfl : root = other := Except.ok.inj (hRoot.symm.trans hOther)
        obtain rfl : order = given := Except.ok.inj (hAccept.symm.trans hGiven)
        simpa [hQuiet] using (lastLine_join_eq_ok_iff palette order.words).2 ⟨hColor, hWords⟩
  · obtain ⟨lines, hTexts, hHeaders⟩ := Action.texts_out_perform_of_ne_exec world
      surroundings.environment ⟨palette.enabled, root⟩ hExec hChildren state
    refine ⟨lines, hTexts, iff_of_false (lastLine_headers_ne_ok hHeaders) fun hEcho => ?_⟩
    obtain ⟨other, hOther, hOtherExec⟩ := exists_plan_of_echoesOk _ _ _ hEcho
    rw [h] at hOther
    cases hOther
    exact hExec hOtherExec

/-- How a dispatched invocation ends is decided by its plan and the ends of its processes. -/
theorem run_dispatch :
    let outcome := (dispatch surroundings palette invocation).run world state
    Trace.texts .err outcome.trace = [] ∧
    (outcome.result = .ok () ↔ ∃ planned, plan surroundings palette invocation = .ok planned ∧
      Finished planned.processes (Trace.starts outcome.trace)) ∧
    (∀ failure, outcome.result = .error failure →
      failure.exitCode = failureStatus (Trace.starts outcome.trace)) ∧
    (lastLine (Trace.written .out outcome.trace) = palette.ok.toList ↔
      outcome.result = .ok () ∨ EchoesOk surroundings palette invocation) := by
  intro outcome
  cases hPlan : plan surroundings palette invocation with
  | error failure =>
      obtain ⟨hResult, hCode, hStarts, hTexts⟩ :=
        run_dispatch_of_error world surroundings palette invocation state hPlan
      have hLast : lastLine (Trace.written .out outcome.trace) ≠ palette.ok.toList := by
        rw [Trace.written, hTexts]
        exact nil_ne_ok palette
      have hEcho : ¬ EchoesOk surroundings palette invocation := by
        intro h
        obtain ⟨planned, hPlanned, -⟩ := exists_plan_of_echoesOk _ _ _ h
        rw [hPlan] at hPlanned
        cases hPlanned
      refine ⟨hTexts .err, ?_, ?_, ?_⟩
      · simp [outcome, hResult]
      · intro other hOther
        obtain rfl := Except.error.inj (hResult.symm.trans hOther)
        simp [outcome, hStarts, hCode, failureStatus]
      · exact iff_of_false hLast (by simp [outcome, hResult, hEcho])
  | ok planned =>
      obtain ⟨after, hResult, hStarts, hErr, hOut⟩ :=
        run_dispatch_of_ok world surroundings palette invocation state hPlan
      obtain ⟨lines, hLines, hEcho⟩ :=
        exists_lines world surroundings palette invocation after hPlan
      have hCarries := Action.perform_carries world surroundings.environment planned.settings
        ((plan_eq_ok_iff _ _ _ _ _ _).1 hPlan).2.2.2 after
      refine ⟨?_, ?_, ?_, ?_⟩
      · rw [hErr]
        exact hCarries.texts_err
      · rw [hResult, hStarts]
        simpa using hCarries.eq_ok_iff
      · rw [hResult, hStarts]
        exact hCarries.exitCode_eq
      · rw [hResult]
        rcases hEnd : ((planned.action.perform surroundings.environment planned.settings
          invocation.args).run world after).result with failure | _
        · have hTexts : Trace.texts .out outcome.trace = lines.map (· ++ "\n") := by
            simpa [hEnd, hLines] using hOut
          simpa [Trace.written_eq hTexts] using hEcho
        · have hTexts : Trace.texts .out outcome.trace =
              (lines ++ [palette.ok]).map (· ++ "\n") := by
            simpa [hEnd, hLines] using hOut
          have hMarker : '\n' ∉ palette.ok.toList := by
            obtain ⟨_ | _⟩ := palette <;> decide
          simp [Trace.written_eq hTexts, lastLine_linesText_concat lines hMarker]

/-- A plan whose processes all succeeded, with all that it consists of. -/
theorem exists_plan_iff (starts : List Start) :
    (∃ planned, plan surroundings palette invocation = .ok planned ∧
      Finished planned.processes starts) ↔
    ∃ (action : Action) (root : String) (processes : List SpawnRequest),
      (invocation.action = action.name ∨ invocation.action ∈ action.aliases) ∧
      surroundings.resolveRoot invocation.root = .ok root ∧
      action.children surroundings.environment ⟨palette.enabled, root⟩ invocation.args =
        .ok processes ∧
      Finished processes starts := by
  constructor
  · rintro ⟨⟨action, ⟨color, root⟩, processes⟩, hPlan, hFinished⟩
    obtain ⟨hName, rfl, hRoot, hChildren⟩ := (plan_eq_ok_iff _ _ _ _ _ _).1 hPlan
    exact ⟨action, root, processes, hName, hRoot, hChildren, hFinished⟩
  · rintro ⟨action, root, processes, hName, hRoot, hChildren, hFinished⟩
    exact ⟨⟨action, ⟨palette.enabled, root⟩, processes⟩,
      (plan_eq_ok_iff _ _ _ _ _ _).2 ⟨hName, rfl, hRoot, hChildren⟩, hFinished⟩

/-- A served invocation ends with a status. It adds nothing after a success, and after a failure it
adds the report to what was exchanged. -/
theorem run_serve (hPalette : palette = ⟨surroundings.colorEnabled invocation.noColor⟩) :
    let dispatched := (dispatch surroundings palette invocation).run world state
    let outcome := (serve (ε := Empty) surroundings invocation).run world state
    (dispatched.result = .ok () ∧ outcome.result = .ok 0 ∧ outcome.trace = dispatched.trace) ∨
      ∃ failure, dispatched.result = .error failure ∧ outcome.result = .ok failure.exitCode ∧
        outcome.trace = dispatched.trace ++
          [⟨.write .err ("\n" ++ palette.paint .red "Error" ++ ": " ++ failure.chain ++ "\n"), ()⟩,
            ⟨.write .err (palette.failed ++ "\n"), ()⟩] := by
  intro dispatched outcome
  subst hPalette
  have hOutcome : outcome = (serve surroundings invocation).run world state := rfl
  rw [serve, Task.run_seq, Task.run_attempt] at hOutcome
  cases hResult : dispatched.result with
  | ok value =>
      refine Or.inl ⟨rfl, ?_, ?_⟩
      · simp [hOutcome, dispatched, hResult]
      · simp [hOutcome, dispatched, hResult]
  | error failure =>
      refine Or.inr ⟨failure, rfl, ?_, ?_⟩
      · simp [hOutcome, dispatched, hResult, report]
      · simp [hOutcome, dispatched, hResult, report]

end Gate

/-- The exit status of the program on an accepted command line, whatever its surroundings and its
processes do. It is 0 if and only if the action has the name or an alias of a registered one, the
root resolves, the action accepts its arguments, and every process that it has to run was started
and succeeded. Any other status is that of the first process that failed, or 1 if none did, and
eight bits hold it. A failure, and nothing else, is reported on the error stream. The last line of
the output is the marker of success after a success, and after a failure only if it is the echo of a
command that is the single word `ok` once its program is normalised. -/
theorem program_exitStatus (world : World σ) (surroundings : Surroundings) {words : List String}
    {invocation : Invocation} (hAccepted : Invocation.parse words = .ok invocation) (state : σ) :
    let outcome := (Gate.program surroundings words).run world state
    let starts := Trace.starts outcome.trace
    let palette : Palette := ⟨surroundings.colorEnabled invocation.noColor⟩
    ∃ code : Nat, outcome.result = .ok (code : Int) ∧ code % 256 = code ∧
      (code = 0 ↔ ∃ (action : Action) (root : String) (processes : List SpawnRequest),
        (invocation.action = action.name ∨ invocation.action ∈ action.aliases) ∧
        surroundings.resolveRoot invocation.root = .ok root ∧
        action.children surroundings.environment ⟨palette.enabled, root⟩ invocation.args =
          .ok processes ∧
        Finished processes starts) ∧
      (code ≠ 0 → code = failureStatus starts) ∧
      ((code = 0 ∧ Trace.texts .err outcome.trace = []) ∨
        (code ≠ 0 ∧ ∃ failure : Failure, failure.exitCode = code ∧
          Trace.texts .err outcome.trace =
            ["\n" ++ palette.paint .red "Error" ++ ": " ++ failure.chain ++ "\n",
              palette.failed ++ "\n"])) ∧
      (lastLine (Trace.written .out outcome.trace) = palette.ok.toList ↔
        code = 0 ∨ Gate.EchoesOk surroundings palette invocation) := by
  intro outcome starts palette
  obtain ⟨hErr, hOk, hCode, hOut⟩ := Gate.run_dispatch world surroundings palette invocation state
  rw [Gate.exists_plan_iff] at hOk
  have hProgram : outcome = (Gate.serve surroundings invocation).run world state := by
    simp only [outcome, Gate.program, hAccepted]
  rcases Gate.run_serve world surroundings palette invocation state rfl with
    ⟨hEnd, hResult, hTrace⟩ | ⟨failure, hEnd, hResult, hTrace⟩
  · rw [← hProgram] at hResult hTrace
    have hDone := hOk.1 hEnd
    rw [← hTrace] at hErr hOut hDone
    refine ⟨0, hResult, rfl, iff_of_true rfl hDone, fun h => absurd rfl h, Or.inl ⟨rfl, hErr⟩, ?_⟩
    exact hOut.trans (iff_of_true (Or.inl hEnd) (Or.inl rfl))
  · rw [← hProgram] at hResult hTrace
    have hStatus := hCode failure hEnd
    have hStarts : starts = Trace.starts ((Gate.dispatch surroundings palette invocation).run
        world state).trace := by
      simp [starts, hTrace]
    have hWritten : Trace.written .out outcome.trace = Trace.written .out
        ((Gate.dispatch surroundings palette invocation).run world state).trace := by
      simp [Trace.written, hTrace]
    have hFailed : ((Gate.dispatch surroundings palette invocation).run world state).result ≠
        .ok () := by
      simp [hEnd]
    have hNot := not_congr hOk |>.1 hFailed
    rw [← hStarts] at hStatus hNot
    refine ⟨failureStatus starts, hResult.trans (congrArg Except.ok hStatus),
      Nat.mod_eq_of_lt (failureStatus_lt starts),
      iff_of_false (failureStatus_ne_zero starts) hNot, fun _ => rfl,
      Or.inr ⟨failureStatus_ne_zero starts, failure, hStatus, ?_⟩, ?_⟩
    · rw [hTrace, Trace.texts_append, hErr]
      simp
    · rw [hWritten, hOut]
      simp [hEnd, failureStatus_ne_zero]

/-- A process that signal 9 killed decides the status. -/
theorem program_exitStatus_killed :
    let outcome := (Gate.program .bare ["exec", "true"]).run (.replying (.ok (.killed 9))) ()
    Invocation.parse ["exec", "true"] = .ok ⟨none, false, "exec", ["true"]⟩ ∧
      outcome.result = .ok 137 ∧ (137 : Nat) = failureStatus (Trace.starts outcome.trace) := by
  intro outcome
  have hAccepted : Invocation.parse ["exec", "true"] = .ok ⟨none, false, "exec", ["true"]⟩ := rfl
  have hStatus : failureStatus (Trace.starts outcome.trace) = 137 := rfl
  obtain ⟨code, hResult, -, hZero, hCode, -⟩ :=
    program_exitStatus (.replying (.ok (.killed 9))) .bare hAccepted ()
  have hNe : code ≠ 0 := by
    intro h
    obtain ⟨_, _, _, _, _, _, _, hAll⟩ := hZero.1 h
    exact absurd (hAll _ List.mem_cons_self) (by decide)
  have hCode' : code = 137 := (hCode hNe).trans hStatus
  subst hCode'
  exact ⟨hAccepted, hResult, hStatus.symm⟩

/-- The last line alone does not tell a success. The command `ok` is echoed like the marker, also
when there is no such program. -/
theorem marker_without_success :
    let words := ["--no-color", "exec", "ok"]
    let outcome := (Gate.program .bare words).run (.replying (.error (.number 2))) ()
    Invocation.parse words = .ok ⟨none, true, "exec", ["ok"]⟩ ∧
      ¬ (lastLine (Trace.written .out outcome.trace) = (Palette.mk false).ok.toList ↔
        outcome.result = .ok 0) := by
  intro words outcome
  have hResult : outcome.result = .ok 1 := rfl
  have hMarker : lastLine (Trace.written .out outcome.trace) = (Palette.mk false).ok.toList := rfl
  refine ⟨rfl, fun hIff => ?_⟩
  have hZero := hIff.1 hMarker
  rw [hResult] at hZero
  cases hZero

end ToolGate
