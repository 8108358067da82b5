import ToolGate.Proofs.Options.Meanings
import ToolGate.Proofs.Options.Recording

/-! One word of a command line after the other. What waits is put on record before anything else
happens, so a reading that goes well can be followed from states at which nothing waits. -/
namespace ToolGate.Options

variable {grammar : Grammar} {option : OptionSpec} {progress after : Progress} {given : List Given}
  {words rest : List String} {text : String} {reading : Reading}

/-- A sequence ends well if and only if both parts do. -/
theorem except_bind_eq_ok_iff {ε α β : Type} {first : Except ε α} {next : α → Except ε β}
    {value : β} :
    (first >>= next) = .ok value ↔ ∃ middle, first = .ok middle ∧ next middle = .ok value := by
  cases first <;> simp [bind, Except.bind]

namespace Progress

/-- If nothing is wrong with what waits, it goes on record. -/
theorem settle_of_fault?_eq_none (h : progress.fault? = none) :
    progress.settle = .ok progress.settled := by
  rw [settle, h]

theorem pending_settled (progress : Progress) : progress.settled.pending = .nothing := by
  unfold settled
  split
  · split <;> rfl
  · rfl
  · rfl

@[simp] theorem settle_standing (given : List Given) (words : List String) :
    settle ⟨given, words, .nothing⟩ = .ok ⟨given, words, .nothing⟩ := rfl

theorem settled_eq (progress : Progress) :
    progress.settled = ⟨progress.settled.given, progress.settled.words, .nothing⟩ := by
  rw [← pending_settled progress]

theorem settle_settled (progress : Progress) :
    progress.settled.settle = .ok progress.settled := by
  rw [settled_eq, settle_standing]

/-- A word that waits has been counted. -/
theorem wordCount_settled (progress : Progress) :
    progress.settled.wordCount = progress.wordCount := by
  rcases progress with ⟨given, words, _ | ⟨option, _ | value⟩ | text⟩
  · rfl
  · rfl
  · unfold settled
    dsimp only
    split <;> rfl
  · simp [settled, wordCount]

/-- An option finds the record that it would find if nothing waited. -/
theorem give_eq_ok_iff_settled (h : progress.fault? = none) (attached : Option String) :
    progress.give option attached = .ok after ↔
      progress.settled.give option attached = .ok after := by
  unfold give
  rw [settle_of_fault?_eq_none h, settle_settled]
  split <;> simp


variable (given words)

/-- A switch is accepted once. -/
theorem give_switch_eq_ok_iff (hKind : option.kind = .switch) :
    give ⟨given, words, .nothing⟩ option none = .ok after ↔
      option ∉ given.map Given.option ∧ after = ⟨record option [] given, words, .nothing⟩ := by
  rw [← has_iff ⟨given, words, .nothing⟩]
  simp only [give, hKind, settle_standing, bind, Except.bind, pure, Except.pure]
  split
  · simp [*]
  · simp [*, eq_comm (a := after)]

/-- An option that needs a value waits for it. -/
theorem give_value {placeholder : String} {repeatable emptyAllowed : Bool}
    (hKind : option.kind = .value placeholder repeatable emptyAllowed) :
    give ⟨given, words, .nothing⟩ option none = .ok ⟨given, words, .option option none⟩ := by
  simp only [give, hKind, settle_standing]
  rfl

section Free

-- A value that may be repeated and empty can be anything.
variable {placeholder : String} (hKind : option.kind = .value placeholder true true)
  (value : String)
include hKind

theorem fault?_free : fault? ⟨given, words, .option option (some value)⟩ = none := by
  simp [fault?, OptionSpec.isRepeatable, OptionSpec.allowsEmpty, hKind]

theorem settled_free :
    settled ⟨given, words, .option option (some value)⟩ =
      ⟨record option [value] given, words, .nothing⟩ := by
  simp [settled, OptionSpec.isRepeatable, hKind]

theorem give_free :
    give ⟨given, words, .nothing⟩ option (some value) =
      .ok ⟨record option [value] given, words, .nothing⟩ := by
  rw [← settled_free given words hKind value,
    ← settle_of_fault?_eq_none (fault?_free given words hKind value)]
  simp only [give, hKind, settle_standing]
  rfl

end Free

end Progress

open Progress

namespace Grammar

/-- Letters settle what waits before they are read. -/
theorem giveLetters_eq_ok_iff_settled (h : progress.fault? = none) (letter : Char)
    (letters : List Char) :
    grammar.giveLetters progress (letter :: letters) = .ok after ↔
      grammar.giveLetters progress.settled (letter :: letters) = .ok after := by
  unfold giveLetters
  split
  · simp only [except_bind_eq_ok_iff, give_eq_ok_iff_settled h]
  · rfl

/-- What waits soundly can be put on record before the next word is read. -/
theorem readFrom_eq_ok_iff_settled (h : progress.fault? = none) (line : List String) :
    grammar.readFrom progress line = .ok reading ↔
      grammar.readFrom progress.settled line = .ok reading := by
  induction line with
  | nil => simp only [readFrom, settle_of_fault?_eq_none h, settle_settled]
  | cons text rest ih =>
      simp only [readFrom, wordCount_settled]
      cases hMeaning : grammar.meaning (grammar.leading.length - progress.wordCount == 0) text with
      | escape => simp only [settle_of_fault?_eq_none h, settle_settled]
      | long option value => simp only [except_bind_eq_ok_iff, give_eq_ok_iff_settled h]
      | unknown name => simp
      | letters letters =>
          cases letters with
          | nil => exact ih
          | cons letter letters =>
              simp only [except_bind_eq_ok_iff, giveLetters_eq_ok_iff_settled h]
      | word =>
          rcases progress with ⟨given, words, _ | ⟨option, _ | value⟩ | word⟩
          · rfl
          · simp [fault?] at h
          · simp only [settle_of_fault?_eq_none h, pending_settled, settle_settled]
          · simp only [settle_of_fault?_eq_none h, pending_settled, settle_settled]

/-- There is no conflict if and only if no two options exclude each other. -/
theorem conflict?_eq_none_iff {options : List OptionSpec} :
    grammar.conflict? options = none ↔
      ∀ first ∈ options, ∀ second ∈ options, grammar.excludes first second = false := by
  simp [conflict?]

/-- A reading ends well with the words of the trailing place if no two options exclude each other
and no place lacks a word. -/
theorem finish_eq_ok_iff (hHelp : (grammar.helpWhenEmpty && words.isEmpty) = false)
    (given : List Given) (trailing : List String) :
    grammar.finish ⟨given, words, .nothing⟩ trailing = .ok reading ↔
      grammar.conflict? (given.map Given.option) = none ∧
      grammar.missing words trailing = [] ∧ reading = ⟨given, words, trailing⟩ := by
  have hOptions : Progress.options ⟨given, words, .nothing⟩ = given.map Given.option := rfl
  have hSome : (grammar.helpWhenEmpty && (given.map Given.option).isEmpty && words.isEmpty &&
      trailing.isEmpty) = false := by
    rw [Bool.and_right_comm grammar.helpWhenEmpty, hHelp]
    rfl
  simp only [finish, hOptions, hSome, Bool.false_eq_true, if_false]
  cases grammar.conflict? (given.map Given.option) with
  | some pair => simp
  | none =>
      by_cases hMissing : grammar.missing words trailing = []
      · simp [hMissing, eq_comm (a := reading)]
      · simp [hMissing]

section Verbatim

-- Every leading place has its word, so the first word that is no option begins the trailing place.
variable (hFull : grammar.leading.length ≤ words.length)
include hFull

theorem readFrom_word (hMeaning : grammar.meaning true text = .word) :
    grammar.readFrom ⟨given, words, .nothing⟩ (text :: rest) =
      grammar.finish ⟨given, words, .nothing⟩ (text :: rest) := by
  have hFree : grammar.leading.length - words.length = 0 := Nat.sub_eq_zero_of_le hFull
  simp only [readFrom, wordCount, hFree, beq_self_eq_true, hMeaning, settle_standing]
  rfl

theorem readFrom_escape (hMeaning : grammar.meaning true text = .escape) :
    grammar.readFrom ⟨given, words, .nothing⟩ (text :: rest) =
      grammar.finish ⟨given, words, .nothing⟩ rest := by
  have hFree : grammar.leading.length - words.length = 0 := Nat.sub_eq_zero_of_le hFull
  simp [readFrom, wordCount, hFree, hMeaning, bind, Except.bind]

theorem readFrom_long {attached : Option String}
    (hMeaning : grammar.meaning true text = .long option attached) :
    grammar.readFrom ⟨given, words, .nothing⟩ (text :: rest) = .ok reading ↔
      ∃ after, give ⟨given, words, .nothing⟩ option attached = .ok after ∧
        grammar.readFrom after rest = .ok reading := by
  have hFree : grammar.leading.length - words.length = 0 := Nat.sub_eq_zero_of_le hFull
  simp only [readFrom, wordCount, hFree, beq_self_eq_true, hMeaning, except_bind_eq_ok_iff]

theorem readFrom_letters {letters : List Char}
    (hMeaning : grammar.meaning true text = .letters letters) :
    grammar.readFrom ⟨given, words, .nothing⟩ (text :: rest) = .ok reading ↔
      ∃ after, grammar.giveLetters ⟨given, words, .nothing⟩ letters = .ok after ∧
        grammar.readFrom after rest = .ok reading := by
  have hFree : grammar.leading.length - words.length = 0 := Nat.sub_eq_zero_of_le hFull
  simp only [readFrom, wordCount, hFree, beq_self_eq_true, hMeaning, except_bind_eq_ok_iff]

/-- An option that waits for its value gets the next word, which must not be an option. -/
theorem readFrom_waiting_eq_ok_iff {placeholder : String}
    (hKind : option.kind = .value placeholder true true) (line : List String) :
    grammar.readFrom ⟨given, words, .option option none⟩ line = .ok reading ↔
      ∃ value rest, line = value :: rest ∧ grammar.meaning true value = .word ∧
        grammar.readFrom ⟨record option [value] given, words, .nothing⟩ rest = .ok reading := by
  have hFree : grammar.leading.length - words.length = 0 := Nat.sub_eq_zero_of_le hFull
  have hSettle (after : Progress) :
      settle ⟨given, words, .option option none⟩ ≠ .ok after := by simp [settle, fault?]
  have hGive (other : OptionSpec) (attached : Option String) (after : Progress) :
      give ⟨given, words, .option option none⟩ other attached ≠ .ok after := by
    unfold give
    split <;> simp [except_bind_eq_ok_iff, hSettle]
  cases line with
  | nil => simp [readFrom, except_bind_eq_ok_iff, hSettle]
  | cons value rest =>
      simp only [readFrom, wordCount, hFree, beq_self_eq_true, List.cons.injEq]
      cases hMeaning : grammar.meaning true value with
      | escape => simp [except_bind_eq_ok_iff, hSettle, hMeaning]
      | long other attached => simp [except_bind_eq_ok_iff, hGive, hMeaning]
      | unknown name => simp [hMeaning]
      | letters letters =>
          obtain ⟨letter, letters, rfl⟩ :=
            List.exists_cons_of_ne_nil (eq_of_meaning_eq_letters hMeaning).1
          simp only [except_bind_eq_ok_iff, giveLetters]
          split <;> simp [except_bind_eq_ok_iff, hGive, hMeaning]
      | word =>
          simp only [readFrom_eq_ok_iff_settled (fault?_free given words hKind value),
            settled_free given words hKind value]
          constructor
          · exact fun h => ⟨value, rest, ⟨rfl, rfl⟩, hMeaning, h⟩
          · rintro ⟨_, _, ⟨rfl, rfl⟩, -, h⟩
            exact h

end Verbatim

end Grammar

end ToolGate.Options
