import ToolGate.Options.Reading

/-! What a word says where options are read, and how an option is spelled. -/
namespace ToolGate

namespace Text

/-- Cutting loses nothing but the mark. -/
theorem cut_rebuild (mark : Char) (text : List Char) :
    (cut mark text).1 ++ ((cut mark text).2.map (mark :: ·)).getD [] = text := by
  induction text with
  | nil => rfl
  | cons c rest ih => by_cases h : c = mark <;> simp [cut, h, ih]

/-- A text is what stands before the mark if it is all there is or the mark comes right after
it. -/
theorem cut_fst_eq_iff {mark : Char} {name text : List Char} (h : mark ∉ name) :
    (cut mark text).1 = name ↔ text = name ∨ name ++ [mark] <+: text := by
  constructor
  · rintro rfl
    have hRebuild := cut_rebuild mark text
    cases hRest : (cut mark text).2 with
    | none => exact Or.inl (by simpa [hRest] using hRebuild.symm)
    | some rest => exact Or.inr ⟨rest, by simpa [hRest] using hRebuild⟩
  · rintro (rfl | ⟨rest, rfl⟩)
    · rw [cut_of_not_mem h]
    · rw [List.append_assoc, List.singleton_append, cut_append h]

end Text

namespace Options

namespace Word

theorem read_of_head?_ne {text : List Char} (h : text.head? ≠ some '-') : read text = .plain := by
  unfold read
  split
  · simp at h
  · simp at h
  · rfl

/-- A long name ends at the first equals sign, after which the value begins. -/
theorem read_long {name : List Char} (hName : name ≠ []) (hMark : '=' ∉ name)
    (value : Option (List Char)) :
    read ('-' :: '-' :: (name ++ (value.map ('=' :: ·)).getD [])) = .long name value := by
  cases value with
  | none => simp [read, hName, Text.cut_of_not_mem hMark]
  | some value => simp [read, Text.cut_append hMark]

theorem eq_of_read_eq_escape {text : List Char} (h : read text = .escape) :
    text = ['-', '-'] := by
  unfold read at h
  split at h
  · split at h
    · simp_all
    · cases h
  · cases h
  · cases h

theorem eq_of_read_eq_long {text name : List Char} {value : Option (List Char)}
    (h : read text = .long name value) :
    text = '-' :: '-' :: (name ++ (value.map ('=' :: ·)).getD []) := by
  unfold read at h
  split at h
  · split at h
    · cases h
    · obtain ⟨rfl, rfl⟩ := Word.long.inj h
      rw [Text.cut_rebuild]
  · cases h
  · cases h

theorem eq_of_read_eq_short {text rest : List Char} {first : Char}
    (h : read text = .short first rest) : text = '-' :: first :: rest := by
  unfold read at h
  split at h
  · split at h <;> cases h
  · obtain ⟨rfl, rfl⟩ := Word.short.inj h
    rfl
  · cases h

end Word

namespace OptionSpec

/-- An option by its long name, with the value that is attached to it. -/
def spelling (option : OptionSpec) (attached : Option String) : String :=
  "--" ++ option.long ++ (attached.map ("=" ++ ·)).getD ""

theorem toList_spelling (option : OptionSpec) (attached : Option String) :
    (option.spelling attached).toList =
      '-' :: '-' :: (option.long.toList ++
        ((attached.map String.toList).map ('=' :: ·)).getD []) := by
  cases attached <;> simp [spelling]

end OptionSpec

namespace Grammar

variable {grammar : Grammar} {option : OptionSpec} {verbatim : Bool} {text : String}
  {attached : Option String}

theorem meaning_spelling (hFind : grammar.findLong? option.long.toList = some option)
    (hName : option.long.toList ≠ []) (hMark : '=' ∉ option.long.toList) (verbatim : Bool)
    (attached : Option String) :
    grammar.meaning verbatim (option.spelling attached) = .long option attached := by
  rw [meaning, OptionSpec.toList_spelling, Word.read_long hName hMark]
  simp [hFind, Function.comp_def]

/-- Where the trailing place is next, an option of another grammar is an ordinary word. -/
theorem meaning_spelling_foreign (hFind : grammar.findLong? option.long.toList = none)
    (hName : option.long.toList ≠ []) (hMark : '=' ∉ option.long.toList)
    (attached : Option String) :
    grammar.meaning true (option.spelling attached) = .word := by
  rw [meaning, OptionSpec.toList_spelling, Word.read_long hName hMark]
  simp [hFind]

/-- What is read as a known option is written in its spelling. -/
theorem eq_spelling_of_meaning (h : grammar.meaning verbatim text = .long option attached) :
    option ∈ grammar.options ∧ text = option.spelling attached := by
  unfold meaning at h
  split at h
  · cases h
  · rename_i name value hRead
    split at h
    · rename_i found hFind
      obtain ⟨rfl, rfl⟩ := Meaning.long.inj h
      refine ⟨List.mem_of_find?_eq_some hFind, ?_⟩
      have hName : found.long.toList = name := by simpa using List.find?_some hFind
      rw [← String.toList_inj, Word.eq_of_read_eq_long hRead, OptionSpec.toList_spelling, hName]
      simp [Function.comp_def]
    · split at h <;> cases h
  · split at h <;> cases h
  · cases h

theorem eq_of_meaning_eq_escape (h : grammar.meaning verbatim text = .escape) : text = "--" := by
  unfold meaning at h
  split at h
  · rename_i hRead
    rw [← String.toList_inj]
    exact Word.eq_of_read_eq_escape hRead
  · split at h
    · cases h
    · split at h <;> cases h
  · split at h <;> cases h
  · cases h

/-- Where the trailing place is next, a name that no option has makes no option of a word. -/
theorem meaning_ne_unknown (text : String) (name : List Char) :
    grammar.meaning true text ≠ .unknown name := by
  unfold meaning
  split
  · simp
  · split <;> simp
  · split <;> simp
  · simp

theorem eq_of_meaning_eq_letters {letters : List Char}
    (h : grammar.meaning verbatim text = .letters letters) :
    letters ≠ [] ∧ text = String.ofList ('-' :: letters) := by
  unfold meaning at h
  split at h
  · cases h
  · split at h
    · cases h
    · split at h <;> cases h
  · rename_i hRead
    split at h
    · cases h
    · obtain rfl := Meaning.letters.inj h
      refine ⟨by simp, ?_⟩
      rw [← Word.eq_of_read_eq_short hRead, String.ofList_toList]
  · cases h

end Grammar

end Options

end ToolGate
