import ToolGate.ExecArgs
import ToolGate.Proofs.Options.Meanings

/-! The words that are options among the arguments of a single command. Every other word but two
dashes alone is plain: it is the value that an option waits for, or it begins the command. -/
namespace ToolGate

namespace ExecArgs

open Options

/-- The names of the options. -/
def optionNames : List String := ["quiet", "shell", "no-shell", "env", "help"]

/-- The letters of the options that have one. -/
def optionLetters : List Char := ['q', 'h']

/-- Two dashes and a name, alone or followed by an equals sign and anything. -/
def isNameWord (word : List Char) : Bool :=
  optionNames.any fun name =>
    word == '-' :: '-' :: name.toList || ('-' :: '-' :: name.toList ++ ['=']).isPrefixOf word

/-- One dash and one or more letters. -/
def isLetterWord : List Char → Bool
  | '-' :: letters => !letters.isEmpty && letters.all optionLetters.contains
  | _ => false

/-- A word that is read as an option, rightly used or not. -/
def isOptionWord (word : String) : Bool :=
  isNameWord word.toList || isLetterWord word.toList

/-- A word that is neither an option nor the separator. -/
def isPlain (word : String) : Bool :=
  word != "--" && !isOptionWord word

theorem isSome_findLong? (name : List Char) :
    (grammar.findLong? name).isSome = optionNames.any fun known => known.toList == name := by
  have hNames : optionNames = grammar.options.map OptionSpec.long := rfl
  rw [Grammar.findLong?, List.isSome_find?, hNames, List.any_map]
  rfl

theorem isSome_findShort? (letter : Char) :
    (grammar.findShort? letter).isSome = optionLetters.contains letter := by
  have hLetters : optionLetters = grammar.options.filterMap OptionSpec.short := rfl
  rw [Grammar.findShort?, List.isSome_find?, hLetters, Bool.eq_iff_iff]
  simp

section Shapes

variable {first second : Char} {rest : List Char}

/-- Behind two dashes the name reaches up to the first equals sign. -/
theorem isNameWord_dashes (rest : List Char) :
    isNameWord ('-' :: '-' :: rest) =
      optionNames.any fun known => known.toList == (Text.cut '=' rest).1 := by
  have hMark : ∀ known ∈ optionNames, '=' ∉ known.toList := by decide
  rw [isNameWord, Bool.eq_iff_iff, List.any_eq_true, List.any_eq_true]
  refine exists_congr fun known => and_congr_right fun hKnown => ?_
  rw [beq_iff_eq, eq_comm (a := known.toList), Text.cut_fst_eq_iff (hMark known hKnown)]
  simp

theorem isNameWord_eq_false (h : first ≠ '-' ∨ second ≠ '-') :
    isNameWord (first :: second :: rest) = false := by
  rw [isNameWord, List.any_eq_false]
  intro known _
  rcases h with h | h <;> simp [h, Ne.symm h]

/-- After a dash, every letter has to be one that the grammar knows. -/
theorem isLetterWord_dash (letters : List Char) :
    isLetterWord ('-' :: letters) = (!letters.isEmpty && letters.all optionLetters.contains) :=
  rfl

theorem isLetterWord_eq_false (h : first ≠ '-') : isLetterWord (first :: rest) = false := by
  simp [isLetterWord, h]

end Shapes

/-- Where the command can begin, exactly the plain words are words. -/
theorem meaning_eq_word_iff (word : String) :
    grammar.meaning true word = .word ↔ isPlain word = true := by
  have hSeparator : (word != "--") = (word.toList != ['-', '-']) := by
    rw [Bool.eq_iff_iff, bne_iff_ne, bne_iff_ne, ne_eq, ne_eq, ← String.toList_inj]
    rfl
  rw [Grammar.meaning, isPlain, isOptionWord, hSeparator]
  generalize word.toList = text
  rcases text with _ | ⟨first, _ | ⟨second, rest⟩⟩
  · decide
  · have hShape : Word.read [first] = .plain := by simp [Word.read]
    have hName : isNameWord [first] = false := by simp [isNameWord]
    have hLetter : isLetterWord [first] = false := by
      by_cases hFirst : first = '-' <;> simp [isLetterWord, hFirst]
    simp [hShape, hName, hLetter]
  by_cases hFirst : first = '-'
  · subst hFirst
    by_cases hSecond : second = '-'
    · subst hSecond
      cases rest with
      | nil => decide
      | cons c rest =>
          have hShape : Word.read ('-' :: '-' :: c :: rest) =
              .long (Text.cut '=' (c :: rest)).1 (Text.cut '=' (c :: rest)).2 := rfl
          have hLetter : isLetterWord ('-' :: '-' :: c :: rest) = false := by
            simp [isLetterWord, optionLetters]
          rw [hShape, isNameWord_dashes, ← isSome_findLong?, hLetter]
          cases hFound : grammar.findLong? (Text.cut '=' (c :: rest)).1 <;> simp [hFound]
    · have hShape : Word.read ('-' :: second :: rest) = .short second rest := by
        simp [Word.read]
      have hName : isNameWord ('-' :: second :: rest) = false :=
        isNameWord_eq_false (Or.inr hSecond)
      rw [hShape, hName, isLetterWord_dash]
      simp only [isSome_findShort?, List.isEmpty_cons, Bool.not_false, Bool.true_and]
      cases (second :: rest).all optionLetters.contains <;> simp [hSecond]
  · have hShape : Word.read (first :: second :: rest) = .plain :=
      Word.read_of_head?_ne (by simpa using hFirst)
    have hName : isNameWord (first :: second :: rest) = false :=
      isNameWord_eq_false (Or.inl hFirst)
    simp [hShape, hName, isLetterWord_eq_false hFirst, hFirst]

/-- A word that does not begin with a dash is plain. -/
theorem isPlain_of_head?_ne {word : String} (h : word.toList.head? ≠ some '-') :
    isPlain word = true := by
  rw [← meaning_eq_word_iff, Grammar.meaning, Word.read_of_head?_ne h]

end ExecArgs
end ToolGate
