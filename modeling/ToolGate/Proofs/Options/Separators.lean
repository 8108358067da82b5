import ToolGate.Invocation
import ToolGate.Proofs.Options.CommandArguments

/-! The separator of a single command, which two readers see one after the other: the one of the
whole command line and the one of the action's arguments. Each drops at most one, at the place where
it has just finished with the options. -/
namespace ToolGate

open Options

namespace Invocation

variable {line : List String} {invocation : Invocation}

/-- After the action the line is read for options, until its first other word. -/
theorem parse_exec_eq_ok_iff :
    parse ("exec" :: line) = .ok invocation ↔
      ∃ reading, grammar.readFrom ⟨[], ["exec"], .nothing⟩ line = .ok reading ∧
        ofReading reading = invocation := by
  have hStart : grammar.readFrom .start ("exec" :: line) =
      grammar.readFrom ⟨[], [], .word "exec"⟩ line := by
    rfl
  have hFault : Progress.fault? ⟨[], [], .word "exec"⟩ = none := rfl
  rw [parse, Grammar.read, except_map_eq_ok_iff, hStart]
  simp only [Grammar.readFrom_eq_ok_iff_settled hFault]
  rfl

theorem finish_exec (args : List String) :
    grammar.finish ⟨[], ["exec"], .nothing⟩ args = .ok ⟨[], ["exec"], args⟩ := by
  rw [Grammar.finish_eq_ok_iff rfl]
  exact ⟨rfl, rfl, rfl⟩

/-- One separator right after the action is dropped. -/
theorem parse_exec_separated (args : List String) :
    parse ("exec" :: "--" :: args) = .ok ⟨none, false, "exec", args⟩ := by
  have hFull : grammar.leading.length ≤ ["exec"].length := Nat.le_refl 1
  refine parse_exec_eq_ok_iff.2 ⟨⟨[], ["exec"], args⟩, ?_, rfl⟩
  rw [Grammar.readFrom_escape hFull (by decide), finish_exec]

/-- From the first word that is no option of the whole program, nothing is changed. -/
theorem parse_exec_verbatim {first : String} (args : List String)
    (h : grammar.meaning true first = .word) :
    parse ("exec" :: first :: args) = .ok ⟨none, false, "exec", first :: args⟩ := by
  have hFull : grammar.leading.length ≤ ["exec"].length := Nat.le_refl 1
  refine parse_exec_eq_ok_iff.2 ⟨⟨[], ["exec"], first :: args⟩, ?_, rfl⟩
  rw [Grammar.readFrom_word hFull h, finish_exec]

end Invocation

namespace ExecArgs

/-- The options of a single command are none of the whole program. -/
theorem Item.meaning_head_invocation (item : Item) (rest : List String) :
    (item.words ++ rest).head?.map (Invocation.grammar.meaning true) = some .word := by
  cases item with
  | letter => rfl
  | named switch => cases switch <;> rfl
  | attached value =>
      have hWord : Invocation.grammar.meaning true (envOption.spelling (some value)) = .word := by
        apply Grammar.meaning_spelling_foreign <;> decide
      simp [words_attached, hWord]
  | separate value => rfl

/-- A value that does not begin with a dash is no option, so it may stand alone. -/
theorem IsProper.of_undashed {items : List Item}
    (once : ∀ switch, items.countP (·.switch? == some switch) ≤ 1)
    (exclusive : ¬(.named .shell ∈ items ∧ .named .noShell ∈ items))
    (undashed : ∀ value, .separate value ∈ items → value.toList.head? ≠ some '-') :
    IsProper items :=
  ⟨once, exclusive, fun value hValue => isPlain_of_head?_ne (undashed value hValue)⟩

/-- A command is no longer than the line that it ends. -/
theorem length_ending (separated : Bool) (command : List String) :
    (ending separated command).length = command.length + separated.toNat := by
  cases separated <;> simp [ending]

/-- A line that is a command and nothing else begins with a plain word. -/
theorem parse_eq_command_iff (first : String) (rest : List String) :
    parse (first :: rest) = .ok (ofItems [] (first :: rest)) ↔ isPlain first = true := by
  constructor
  · intro h
    obtain ⟨line, hWords⟩ := exists_line_of_parse h
    have hArgs : ofItems line.items line.command = ofItems [] (first :: rest) :=
      Except.ok.inj (line.parse_words.symm.trans (hWords ▸ h))
    have hCommand : line.command = first :: rest := congrArg ExecArgs.command hArgs
    have hSeparated : line.separated = false := by
      have hLength := congrArg List.length (hWords.trans hCommand.symm)
      rw [Line.words, List.length_append, length_ending] at hLength
      exact Bool.toNat_eq_zero.1 (by omega)
    exact line.canBegin hSeparated first (by simp [hCommand])
  · intro h
    have hBegin : CanBegin false (first :: rest) := by simpa [CanBegin] using h
    exact (parse_items_eq_ok_iff hBegin _).2 ⟨IsProper.nil, by simp, rfl⟩

end ExecArgs

/-- Between an action and a command stand its options and a separator. With options, the separator
survives the first reading and the second one takes it, so the command is kept as it stands. Without
options the first reading takes the separator, and the command is kept if and only if it begins with
a plain word; a second separator keeps any command. A value that does not begin with a dash is
plain, so it may stand alone. -/
theorem parse_exec_separators {items : List ExecArgs.Item} (h : ExecArgs.IsProper items)
    (first : String) (rest : List String) :
    let command := first :: rest
    let args := items.flatMap ExecArgs.Item.words ++ "--" :: command
    (items ≠ [] →
      Invocation.parse ("exec" :: args) = .ok ⟨none, false, "exec", args⟩ ∧
      ExecArgs.parse args = .ok (ExecArgs.ofItems items command)) ∧
    (Invocation.parse ("exec" :: "--" :: command) = .ok ⟨none, false, "exec", command⟩ ∧
      (ExecArgs.parse command = .ok ⟨false, false, false, [], command⟩ ↔
        ExecArgs.isPlain first = true)) ∧
    Invocation.parse ("exec" :: "--" :: "--" :: command) =
        .ok ⟨none, false, "exec", "--" :: command⟩ ∧
      ExecArgs.parse ("--" :: command) = .ok ⟨false, false, false, [], command⟩ := by
  intro command args
  have hCommand : command ≠ [] := List.cons_ne_nil first rest
  refine ⟨fun hItems => ⟨?_, ?_⟩, ⟨?_, ?_⟩, ?_, ?_⟩
  · obtain ⟨item, items, rfl⟩ := List.exists_cons_of_ne_nil hItems
    have hArgs : args = item.words ++ (items.flatMap ExecArgs.Item.words ++ "--" :: command) := by
      rw [← List.append_assoc]
      rfl
    obtain ⟨word, hWord, hMeaning⟩ :=
      Option.map_eq_some_iff.1 (hArgs ▸ item.meaning_head_invocation _)
    obtain ⟨more, hMore⟩ := List.head?_eq_some_iff.1 hWord
    rw [hMore]
    exact Invocation.parse_exec_verbatim more hMeaning
  · exact (ExecArgs.parse_items_eq_ok_iff (ExecArgs.canBegin_separated command) _).2
      ⟨h, hCommand, rfl⟩
  · exact Invocation.parse_exec_separated command
  · exact ExecArgs.parse_eq_command_iff first rest
  · exact Invocation.parse_exec_separated ("--" :: command)
  · exact (ExecArgs.parse_items_eq_ok_iff (ExecArgs.canBegin_separated command) _).2
      ⟨ExecArgs.IsProper.nil, hCommand, rfl⟩

/-- The attached value and the command look like options here. -/
theorem parse_exec_separators_dashes :
    let args := ["-q", "--env", "A=1", "--env=-q", "--no-shell", "--", "--", "-q"]
    ExecArgs.IsProper [.letter, .separate "A=1", .attached "-q", .named .noShell] ∧
      Invocation.parse ("exec" :: args) = .ok ⟨none, false, "exec", args⟩ ∧
      ExecArgs.parse args = .ok ⟨true, false, true, ["A=1", "-q"], ["--", "-q"]⟩ := by
  have hProper : ExecArgs.IsProper [.letter, .separate "A=1", .attached "-q", .named .noShell] := by
    apply ExecArgs.IsProper.of_undashed
    · intro switch
      cases switch <;> decide
    · decide
    · intro value hValue
      obtain rfl : value = "A=1" := by simpa using hValue
      decide
  exact ⟨hProper, (parse_exec_separators hProper "--" ["-q"]).1 (by simp)⟩

end ToolGate
