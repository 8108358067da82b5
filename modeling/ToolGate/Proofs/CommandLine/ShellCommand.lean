import Mathlib.Data.List.TakeWhile
import ToolGate.CommandLine.VariableName
import ToolGate.Proofs.CommandLine.PosixLines
import ToolGate.Proofs.Execution.Command

/-! What the shell makes of the line of a command. The words that it reads are those that are
started without it, but for one rule: where a command begins, an unquoted word of the form
`name=value` sets a variable. Quoting does not prevent that, since `=` is safe. -/
namespace ToolGate

namespace CommandLine

/-- Whether a text begins with a name and a `=` right after it. -/
def startsAssignment (text : List Char) : Bool :=
  isName (text.takeWhile isNamePart) && (text.dropWhile isNamePart).head? == some '='

/-- A text is taken for an assignment if and only if it is a name, an equals sign and anything. -/
theorem startsAssignment_iff {text : List Char} :
    startsAssignment text = true ↔
      ∃ name value, isName name = true ∧ text = name ++ '=' :: value := by
  rw [startsAssignment, Bool.and_eq_true, beq_iff_eq]
  constructor
  · rintro ⟨hName, hMark⟩
    obtain ⟨value, hRest⟩ := List.head?_eq_some_iff.1 hMark
    exact ⟨_, value, hName, by rw [← hRest, List.takeWhile_append_dropWhile]⟩
  · rintro ⟨name, value, hName, rfl⟩
    have hParts : ∀ c ∈ name, isNamePart c = true := fun _ => isNamePart_of_mem hName
    rw [List.takeWhile_append_of_pos hParts, List.dropWhile_append_of_pos hParts]
    simpa [isNamePart] using hName

/-- Whether a shell takes a word for an assignment where a command begins: the name and the `=` have
to stand outside quotes. -/
def Mark.isAssignment (marks : List Mark) : Bool :=
  startsAssignment ((marks.takeWhile (·.role == .plain)).map Mark.char)

/-- The words of the command that a shell finds on a line, without the assignments before it. There
is no answer for a line on which more happens than quoting. -/
def shellCommand (line : String) : Option (List String) :=
  ((Mode.marks? .bare line.toList).filter (·.all Mark.isHarmless)).map fun marks =>
    (((marks.splitOnP Mark.isSeparator).filter Mark.isWord).dropWhile Mark.isAssignment).map
      Mark.word

/-- Whether an argument is taken for an assignment where a command begins. -/
def isAssignmentWord (word : String) : Bool :=
  word.toList.all isSafe && startsAssignment word.toList

theorem isAssignmentWord_iff {word : String} :
    isAssignmentWord word = true ↔
      word.toList.all isSafe = true ∧
        ∃ name value, isName name = true ∧ word.toList = name ++ '=' :: value := by
  rw [isAssignmentWord, Bool.and_eq_true, startsAssignment_iff]

/-- Only the form of a safe argument matters, since any other one begins with quotes. -/
theorem Mark.isAssignment_ofArg (word : String) :
    isAssignment (ofArg word.toList) = isAssignmentWord word := by
  unfold isAssignment ofArg isAssignmentWord
  split
  · rename_i hEmpty
    rw [List.isEmpty_iff.1 hEmpty]
    rfl
  split
  · rename_i hSafe
    have hPlain : ∀ mark ∈ word.toList.map (Mark.mk · .plain), (mark.role == .plain) = true := by
      simp
    rw [hSafe, Bool.true_and, List.takeWhile_eq_self_iff.2 hPlain, List.map_map]
    exact congrArg startsAssignment (List.map_id' _)
  · rename_i hUnsafe
    simp [hUnsafe]
    rfl

/-- The shell runs what is left of a joined command after its assignments. -/
theorem shellCommand_join (words : List String) :
    shellCommand (join .posix words) = some (words.dropWhile isAssignmentWord) := by
  have hLead : (Mark.isAssignment ∘ Mark.ofArg) ∘ String.toList = isAssignmentWord :=
    funext Mark.isAssignment_ofArg
  rw [shellCommand, marks?_join, Option.filter_some, if_pos (isHarmless_ofLine _), Option.map_some,
    Mark.filter_isWord_ofLine, List.dropWhile_map, List.dropWhile_map, hLead, List.map_map,
    List.map_map]
  simp [Function.comp_def, Mark.word_ofArg]

/-- Quotes at any place keep the shell from seeing an assignment, and so does a word before it. -/
example : shellCommand "A=1 B= 'C=2;' D=3" = some ["C=2;", "D=3"] := by decide

/-- All words are left if and only if the first one is no assignment. -/
theorem shellCommand_join_eq_iff (first : String) (rest : List String) :
    shellCommand (join .posix (first :: rest)) = some (first :: rest) ↔
      isAssignmentWord first = false := by
  rw [shellCommand_join, Option.some_inj, List.dropWhile_eq_self_iff, ← Bool.not_eq_true]
  exact ⟨fun h => h (Nat.zero_lt_succ _), fun h _ => h⟩

end CommandLine

open CommandLine

/-- With the shell and without it, a run starts one process, in the same directory and with the same
variables. What the shell finds on its line are the words that are started without it, unless the
program's own word is taken for an assignment. -/
theorem runCommand_shell {σ : Type} (world : World σ) (state : σ) (inherited : Environment)
    (program : String) (args : List String) (options : RunOptions) :
    let first := normalizeProgram .posix program
    let words := first :: args
    let starts (shell : Bool) := Trace.starts ((runCommand inherited (program :: args)
      (options.withShell shell)).run world state).trace
    ∃ line shell shellReply plain plainReply,
      (starts true = [(shell, shellReply)] ∧
        shell.program = "/bin/sh" ∧ shell.args = ["-c", line]) ∧
      (starts false = [(plain, plainReply)] ∧
        plain.program = locateProgram first options.directory ∧ plain.args = args) ∧
      (shellCommand line = some words ↔
        ¬(first.toList.all isSafe = true ∧
          ∃ name value, isName name = true ∧
            first.toList = name ++ '=' :: value)) ∧
      shellCommand line = some (words.dropWhile isAssignmentWord) ∧
      (shell.environment = inherited.merge options.base options.overlay ∧
        plain.environment = shell.environment) ∧
      (shell.directory = options.directory ∧ plain.directory = shell.directory) := by
  intro first words starts
  obtain ⟨shellReply, hShell⟩ :=
    starts_runCommand world inherited program args state (options.withShell true)
  obtain ⟨plainReply, hPlain⟩ :=
    starts_runCommand world inherited program args state (options.withShell false)
  refine ⟨_, _, shellReply, _, plainReply, ⟨hShell, rfl, rfl⟩, ⟨hPlain, rfl, rfl⟩, ?_,
    shellCommand_join words, ⟨rfl, rfl⟩, rfl, rfl⟩
  rw [← isAssignmentWord_iff, Bool.not_eq_true]
  exact shellCommand_join_eq_iff first args

end ToolGate
