import ToolGate.Proofs.Options.Steps

/-! Options that take one value, once, and not an empty one. They are judged when the next word
shows that their value is complete, so a line is refused some words after the mistake. Whatever is
accepted, the words of the trailing place are the end of the line. -/
namespace ToolGate.Options

variable {grammar : Grammar} {option : OptionSpec} {progress after : Progress}
  {given : List Given} {words rest : List String} {text value : String} {reading : Reading}

namespace Progress

theorem settle_eq_ok_iff :
    progress.settle = .ok after ↔ progress.fault? = none ∧ after = progress.settled := by
  unfold settle
  cases progress.fault? <;> simp [eq_comm (a := after)]

theorem settle_ne_ok (h : progress.fault? ≠ none) (after : Progress) :
    progress.settle ≠ .ok after :=
  fun hSettle => h (settle_eq_ok_iff.1 hSettle).1

/-- What is wrong with the option before is found out at the next one. -/
theorem give_ne_ok (h : progress.fault? ≠ none) (option : OptionSpec) (attached : Option String)
    (after : Progress) : progress.give option attached ≠ .ok after := by
  unfold give
  split <;> simp [except_bind_eq_ok_iff, settle_ne_ok h]

variable {placeholder : String}

/-- An option that takes one value and no empty one can only go wrong in these two ways. -/
theorem fault?_strict_eq_none_iff (hKind : option.kind = .value placeholder false false) :
    fault? ⟨given, words, .option option (some value)⟩ = none ↔
      option ∉ given.map Given.option ∧ value ≠ "" := by
  rw [← has_iff ⟨given, words, .option option (some value)⟩]
  simp only [fault?, OptionSpec.isRepeatable, OptionSpec.allowsEmpty, hKind, Bool.not_false,
    Bool.true_and, Bool.and_true, String.isEmpty_iff]
  split <;> simp [*]

theorem settled_of_new (h : option ∉ given.map Given.option) :
    settled ⟨given, words, .option option (some value)⟩ =
      ⟨record option [value] given, words, .nothing⟩ := by
  have hNew : has ⟨given, words, .option option (some value)⟩ option = false := by
    rwa [Bool.eq_false_iff, ne_eq, has_iff]
  simp [settled, hNew]

/-- An option with one value is taken if it is new and its value is not empty. -/
theorem give_strict_eq_ok_iff (hKind : option.kind = .value placeholder false false) :
    give ⟨given, words, .nothing⟩ option (some value) = .ok after ↔
      option ∉ given.map Given.option ∧ value ≠ "" ∧
        after = ⟨record option [value] given, words, .nothing⟩ := by
  have hGive : give ⟨given, words, .nothing⟩ option (some value) =
      settle ⟨given, words, .option option (some value)⟩ := by
    simp only [give, hKind, settle_standing]
    rfl
  rw [hGive, settle_eq_ok_iff, fault?_strict_eq_none_iff hKind, and_assoc]
  refine and_congr_right fun hNew => ?_
  rw [settled_of_new hNew]

end Progress

open Progress

namespace Grammar

/-- A value that has come cannot be taken back, so what is wrong with its option stays wrong. -/
theorem readFrom_ne_ok (hPending : progress.pending = .option option (some value))
    (h : progress.fault? ≠ none) (line : List String) :
    grammar.readFrom progress line ≠ .ok reading := by
  cases line with
  | nil => simp [readFrom, except_bind_eq_ok_iff, settle_ne_ok h]
  | cons text rest =>
      rw [readFrom]
      split
      · simp [except_bind_eq_ok_iff, settle_ne_ok h]
      · simp [except_bind_eq_ok_iff, give_ne_ok h]
      · simp
      · rename_i letters hMeaning
        obtain ⟨letter, letters, rfl⟩ :=
          List.exists_cons_of_ne_nil (eq_of_meaning_eq_letters hMeaning).1
        rw [giveLetters]
        split <;> simp [except_bind_eq_ok_iff, give_ne_ok h]
      · simp [hPending, except_bind_eq_ok_iff, settle_ne_ok h]

/-- An option with its value is judged before anything else happens. -/
theorem readFrom_strict_eq_ok_iff {placeholder : String}
    (hKind : option.kind = .value placeholder false false) (line : List String) :
    grammar.readFrom ⟨given, words, .option option (some value)⟩ line = .ok reading ↔
      option ∉ given.map Given.option ∧ value ≠ "" ∧
        grammar.readFrom ⟨record option [value] given, words, .nothing⟩ line = .ok reading := by
  have hFault : fault? ⟨given, words, .option option (some value)⟩ = none ↔ _ :=
    fault?_strict_eq_none_iff hKind
  by_cases h : fault? ⟨given, words, .option option (some value)⟩ = none
  · obtain ⟨hNew, hValue⟩ := hFault.1 h
    rw [readFrom_eq_ok_iff_settled h, settled_of_new hNew, and_iff_right hNew, and_iff_right hValue]
  · refine iff_of_false (readFrom_ne_ok rfl h line) fun hBoth => h (hFault.2 ?_)
    exact ⟨hBoth.1, hBoth.2.1⟩

/-- An option is read in the same way at every place. -/
theorem readFrom_spelling {attached : Option String}
    (hMeaning : ∀ verbatim, grammar.meaning verbatim text = .long option attached) :
    grammar.readFrom progress (text :: rest) = .ok reading ↔
      ∃ after, progress.give option attached = .ok after ∧
        grammar.readFrom after rest = .ok reading := by
  simp only [readFrom, hMeaning, except_bind_eq_ok_iff]

/-- The word after an option that waits is its value, even if the trailing place could begin with
it. -/
theorem readFrom_waiting_word (hMeaning : ∀ verbatim, grammar.meaning verbatim text = .word) :
    grammar.readFrom ⟨given, words, .option option none⟩ (text :: rest) =
      grammar.readFrom ⟨given, words, .option option (some text)⟩ rest := by
  simp only [readFrom, hMeaning]

/-- A word that does not look like an option takes the next leading place. -/
theorem readFrom_leading (hFree : words.length < grammar.leading.length)
    (hMeaning : ∀ verbatim, grammar.meaning verbatim text = .word) :
    grammar.readFrom ⟨given, words, .nothing⟩ (text :: rest) = .ok reading ↔
      grammar.readFrom ⟨given, words ++ [text], .nothing⟩ rest = .ok reading := by
  have hPlace : (grammar.leading.length - words.length == 0) = false := by
    rw [beq_eq_false_iff_ne]
    omega
  have hWord : grammar.readFrom ⟨given, words, .nothing⟩ (text :: rest) =
      grammar.readFrom ⟨given, words, .word text⟩ rest := by
    simp only [readFrom, wordCount, hMeaning, hPlace, settle_standing]
    rfl
  rw [hWord, readFrom_eq_ok_iff_settled rfl]
  rfl

theorem trailing_of_finish {trailing : List String}
    (h : grammar.finish progress trailing = .ok reading) : reading.trailing = trailing := by
  simp only [finish] at h
  split at h
  · cases h
  · split at h
    · cases h
    · split at h
      · rw [← Except.ok.inj h]
      · cases h

/-- Nothing is added to the words of the trailing place, and nothing among them or after them is
left out. -/
theorem trailing_suffix_of_readFrom {line : List String}
    (h : grammar.readFrom progress line = .ok reading) : reading.trailing <:+ line := by
  induction line generalizing progress with
  | nil =>
      obtain ⟨_, -, hFinish⟩ := except_bind_eq_ok_iff.1 h
      exact trailing_of_finish hFinish ▸ List.suffix_refl []
  | cons text rest ih =>
      have hStep {next : Progress} (hRest : grammar.readFrom next rest = .ok reading) :
          reading.trailing <:+ text :: rest :=
        (ih hRest).trans (List.suffix_cons text rest)
      rw [readFrom] at h
      split at h
      · obtain ⟨_, -, hFinish⟩ := except_bind_eq_ok_iff.1 h
        rw [trailing_of_finish hFinish]
        exact (List.drop_suffix _ rest).trans (List.suffix_cons text rest)
      · obtain ⟨_, -, hRest⟩ := except_bind_eq_ok_iff.1 h
        exact hStep hRest
      · cases h
      · obtain ⟨_, -, hRest⟩ := except_bind_eq_ok_iff.1 h
        exact hStep hRest
      · split at h
        · exact hStep h
        · obtain ⟨_, -, hRest⟩ := except_bind_eq_ok_iff.1 h
          split at hRest
          · exact trailing_of_finish hRest ▸ List.suffix_refl (text :: rest)
          · exact hStep hRest

end Grammar

end ToolGate.Options
