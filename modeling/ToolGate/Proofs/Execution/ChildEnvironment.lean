import ToolGate.Proofs.Environment.Overlay
import ToolGate.Proofs.Execution.ConsoleUse
import ToolGate.Proofs.Options.CommandArguments

/-! The environment that a single command is started with. The texts that set variables are read one
by one, a malformed one stops everything, and what is read is laid over the variables of the caller.
-/
namespace ToolGate

/-- What stands before the first equals sign of a text. -/
def variableName (text : String) : String :=
  String.ofList (text.toList.takeWhile (· ≠ '='))

/-- What stands after the first equals sign of a text. -/
def variableValue (text : String) : String :=
  String.ofList ((text.toList.dropWhile (· ≠ '=')).drop 1)

/-- The variable that a text sets. -/
def setting (text : String) : String × String :=
  (variableName text, variableValue text)

/-- A text with an equals sign is taken apart at the first one. -/
theorem setting_append {name : String} (h : '=' ∉ name.toList) (value : String) :
    setting (name ++ "=" ++ value) = (name, value) := by
  have hName : ∀ c ∈ name.toList, decide (c ≠ '=') = true := by
    intro c hc
    exact decide_eq_true fun hMark => h (hMark ▸ hc)
  have hText : (name ++ "=" ++ value).toList = name.toList ++ '=' :: value.toList := by simp
  simp only [setting, variableName, variableValue, hText, List.takeWhile_append_of_pos hName,
    List.dropWhile_append_of_pos hName]
  simp

/-- A text sets a variable if it has an equals sign and does not begin with it. -/
theorem isAssignment_iff_mem {text : String} :
    IsAssignment text ↔ '=' ∈ text.toList ∧ text.toList.head? ≠ some '=' := by
  constructor
  · rintro ⟨name, value, hName, hMark, rfl⟩
    obtain ⟨c, rest, hChars⟩ := List.exists_cons_of_ne_nil
      (show name.toList ≠ [] by simpa using hName)
    refine ⟨by simp, fun hHead => hMark ?_⟩
    simp [hChars] at hHead
    simp [hChars, hHead]
  · rintro ⟨hMem, hHead⟩
    obtain ⟨before, after, hText, hBefore⟩ := List.eq_append_cons_of_mem hMem
    refine ⟨String.ofList before, String.ofList after, ?_, by simpa using hBefore, ?_⟩
    · intro hEmpty
      obtain rfl : before = [] := by simpa using congrArg String.toList hEmpty
      simp [hText] at hHead
    · rw [← String.toList_inj, hText]
      simp

namespace Action

/-- A well-formed text is never refused. -/
theorem readVariable_of_isAssignment {text : String} (h : IsAssignment text) :
    readVariable text = .ok (setting text) := by
  obtain ⟨name, value, hName, hMark, rfl⟩ := h
  rw [setting_append hMark]
  exact readVariable_eq_ok_iff.2 ⟨hName, hMark, rfl⟩

/-- Texts that can all be read stand for the environment of what is read. -/
theorem readVariables_map {α : Type} (text : α → String) (pair : α → String × String)
    {elements : List α}
    (h : ∀ element ∈ elements, readVariable (text element) = .ok (pair element)) :
    readVariables (elements.map text) = .ok (.ofList (elements.map pair)) := by
  have hAll : (elements.map text).mapM readVariable = .ok (elements.map pair) := by
    induction elements with
    | nil => rfl
    | cons element rest ih =>
        rw [List.forall_mem_cons] at h
        rw [List.map_cons, List.mapM_cons, h.1, ih h.2]
        rfl
  rw [readVariables, hAll]
  rfl

/-- The environment of the process does not depend on the words, nor on whether the shell runs them.
-/
theorem environment_spawnRequest (inherited : Environment) (words : List String)
    (options : RunOptions) :
    (spawnRequest inherited words options).environment =
      inherited.merge options.base options.overlay := by
  unfold spawnRequest
  split <;> rfl

/-- An accepted command whose variables can be read starts one process, with the caller's variables
and those on top of them. -/
theorem starts_exec {σ : Type} (world : World σ) (state : σ) (inherited : Environment)
    (settings : Settings) {words : List String} {given : ExecArgs} {overlay : Environment}
    (hParse : ExecArgs.parse words = .ok given) (hEnv : readVariables given.env = .ok overlay) :
    ∃ process reply,
      Trace.starts ((Action.exec.perform inherited settings words).run world state).trace =
        [(process, reply)] ∧
      process.environment = inherited.overlay overlay := by
  obtain ⟨program, args, hCommand⟩ :=
    List.exists_cons_of_ne_nil (ExecArgs.command_ne_nil_of_parse hParse)
  have hAccept : accept settings words =
      .ok ⟨execOptions settings given overlay, program, args⟩ := by
    simp only [accept, hParse, hEnv, hCommand]
  obtain ⟨reply, hStarts⟩ := starts_runCommand world inherited program args state
    (execOptions settings given overlay)
  refine ⟨_, reply, ?_, environment_spawnRequest inherited (commandWords program args)
    (execOptions settings given overlay)⟩
  rw [perform, runExec_eq, hAccept, Task.run_mapError]
  exact hStarts

end Action

open ToolGate.Action ToolGate.Environment

/-- The environment of a single command. Once its options are accepted, it is started if and only if
every text that sets a variable has an equals sign and does not begin with it; otherwise the first
text in order that is malformed is the error, and nothing is done. The process has the variables of
the caller, except that a name which is set has the value that was set last, as it stands after the
first equals sign. Pairs that are written as texts are read as the same variables. -/
theorem perform_variables {σ : Type} (world : World σ) (state : σ) (inherited : Environment)
    (settings : Settings) {words : List String} {given : ExecArgs}
    (hParse : ExecArgs.parse words = .ok given) :
    let outcome := (Action.exec.perform inherited settings words).run world state
    let wellFormed (text : String) := '=' ∈ text.toList ∧ text.toList.head? ≠ some '='
    (Trace.starts outcome.trace ≠ [] ↔ ∀ text ∈ given.env, wellFormed text) ∧
    ((∃ text ∈ given.env, ¬ wellFormed text) →
      ∃ before text after, given.env = before ++ text :: after ∧
        (∀ earlier ∈ before, wellFormed earlier) ∧ ¬ wellFormed text ∧
        outcome = ⟨.error (.malformedVariable text), state, []⟩) ∧
    ((∀ text ∈ given.env, wellFormed text) →
      ∃ process reply, Trace.starts outcome.trace = [(process, reply)] ∧
        Settles (given.env.map setting) inherited.get? process.environment.get?) ∧
    ∀ pairs : List (String × String), (∀ pair ∈ pairs, pair.1 ≠ "" ∧ '=' ∉ pair.1.toList) →
      ∃ read,
        readVariables (pairs.map fun pair => pair.1 ++ "=" ++ pair.2) = .ok read ∧
        Settles pairs (fun _ => none) read.get? := by
  intro outcome wellFormed
  have hWellFormed (text : String) : IsAssignment text ↔ wellFormed text := isAssignment_iff_mem
  simp only [← hWellFormed]
  have hRefused (h : ∃ text ∈ given.env, ¬ IsAssignment text) :
      ∃ before text after, given.env = before ++ text :: after ∧
        (∀ earlier ∈ before, IsAssignment earlier) ∧ ¬ IsAssignment text ∧
        outcome = ⟨.error (.malformedVariable text), state, []⟩ := by
    obtain ⟨before, text, after, hSplit, hBefore, hText, hError⟩ := readVariables_of_malformed h
    refine ⟨before, text, after, hSplit, hBefore, hText, ?_⟩
    simp only [outcome, perform_of_readVariables_eq_error inherited settings hParse hError,
      Task.run_fail]
  have hStarted (h : ∀ text ∈ given.env, IsAssignment text) :
      ∃ process reply, Trace.starts outcome.trace = [(process, reply)] ∧
        Settles (given.env.map setting) inherited.get? process.environment.get? := by
    have hRead : readVariables given.env = .ok (.ofList (given.env.map setting)) := by
      simpa using readVariables_map id setting fun text hText =>
        readVariable_of_isAssignment (h text hText)
    obtain ⟨process, reply, hStarts, hEnvironment⟩ :=
      starts_exec world state inherited settings hParse hRead
    exact ⟨process, reply, hStarts, hEnvironment ▸ inherited.settles_overlay_ofList _⟩
  refine ⟨⟨fun hSome => ?_, fun hAll => ?_⟩, hRefused, hStarted, ?_⟩
  · by_contra hMalformed
    push Not at hMalformed
    obtain ⟨_, _, _, -, -, -, hOutcome⟩ := hRefused hMalformed
    exact hSome (by rw [hOutcome]; rfl)
  · obtain ⟨process, reply, hStarts, -⟩ := hStarted hAll
    simp [hStarts]
  · intro pairs hPairs
    have hRead := readVariables_map (fun pair => pair.1 ++ "=" ++ pair.2) id fun pair hPair =>
      readVariable_eq_ok_iff.2 ⟨(hPairs pair hPair).1, (hPairs pair hPair).2, rfl⟩
    rw [List.map_id] at hRead
    exact ⟨_, hRead, Environment.empty.settles_insertAll pairs⟩

/-- A name that is set twice, a value with an equals sign in it and an empty one; a text that begins
with an equals sign is refused before one that has none. -/
theorem perform_variables_shadowed :
    let inherited : Environment := .ofList [("A", "0"), ("PATH", "/bin")]
    let world := World.replying (.ok (.exited 0))
    let outcome (env : List String) := (Action.exec.perform inherited ⟨false, "/w"⟩
      (env.flatMap (["--env", ·]) ++ ["--", "tool"])).run world ()
    (∃ process reply,
      Trace.starts (outcome ["A=1", "B=x=y", "A="]).trace = [(process, reply)] ∧
      process.environment.get? "A" = some "" ∧ process.environment.get? "B" = some "x=y" ∧
      process.environment.get? "PATH" = some "/bin" ∧ process.environment.get? "C" = none) ∧
    outcome ["A=1", "=v", "B"] = ⟨.error (.malformedVariable "=v"), (), []⟩ ∧
    ∃ read, readVariables ["A=1", "A=="] = .ok read ∧ read.get? "A" = some "=" := by
  intro inherited world outcome
  have hParse (env : List String)
      (h : ExecArgs.parse (env.flatMap (["--env", ·]) ++ ["--", "tool"]) =
        .ok ⟨false, false, false, env, ["tool"]⟩) :=
    perform_variables world () inherited ⟨false, "/w"⟩ h
  obtain ⟨-, -, hStarted, hPairs⟩ := hParse ["A=1", "B=x=y", "A="] rfl
  obtain ⟨process, reply, hStarts, hSettles⟩ := hStarted (by decide)
  obtain ⟨-, hRefused, -, -⟩ := hParse ["A=1", "=v", "B"] rfl
  obtain ⟨before, text, after, hSplit, hBefore, hText, hOutcome⟩ := hRefused (by decide)
  obtain ⟨read, hRead, hReadSettles⟩ := hPairs [("A", "1"), ("A", "=")] (by decide)
  have hFirst : text = "=v" := by
    rcases before with _ | ⟨first, _ | ⟨second, rest⟩⟩
    · obtain ⟨rfl, -⟩ := List.cons.inj hSplit
      exact absurd (by decide) hText
    · exact (List.cons.inj (List.cons.inj hSplit).2).1.symm
    · obtain ⟨rfl, -⟩ := List.cons.inj (List.cons.inj hSplit).2
      exact absurd (hBefore "=v" (by simp)) (by decide)
  refine ⟨⟨process, reply, hStarts, ?_, ?_, ?_, ?_⟩, hFirst ▸ hOutcome, read, hRead, ?_⟩
  · exact hSettles.last [("A", "1"), ("B", "x=y")] [] rfl (by decide)
  · exact hSettles.last [("A", "1")] [("A", "")] rfl (by decide)
  · exact (hSettles.other (by decide)).trans rfl
  · exact (hSettles.other (by decide)).trans rfl
  · exact hReadSettles.last [("A", "1")] [] rfl (by decide)

end ToolGate
