/-!
Cutting a text at the first occurrence of a mark.
-/

namespace ToolGate.Text

/-- What stands before the first occurrence of a mark, and what stands after it, if there is
one. -/
def cut (mark : Char) : List Char → List Char × Option (List Char)
  | [] => ([], none)
  | c :: rest =>
    if c = mark then ([], some rest) else (c :: (cut mark rest).1, (cut mark rest).2)

/-- The part before the mark is free of it. -/
theorem not_mem_cut_fst (mark : Char) (text : List Char) : mark ∉ (cut mark text).1 := by
  induction text with
  | nil => simp [cut]
  | cons c rest ih =>
    by_cases h : c = mark
    · simp [cut, h]
    · simp [cut, h, ih, Ne.symm h]

/-- A mark in front of which none occurs is where a text is cut. -/
theorem cut_append {mark : Char} {before : List Char} (h : mark ∉ before) (after : List Char) :
    cut mark (before ++ mark :: after) = (before, some after) := by
  induction before with
  | nil => simp [cut]
  | cons c rest ih =>
    rw [List.mem_cons, not_or] at h
    simp [cut, Ne.symm h.1, ih h.2]

/-- A text without the mark is not cut. -/
theorem cut_of_not_mem {mark : Char} {text : List Char} (h : mark ∉ text) :
    cut mark text = (text, none) := by
  induction text with
  | nil => rfl
  | cons c rest ih =>
    rw [List.mem_cons, not_or] at h
    simp [cut, Ne.symm h.1, ih h.2]

end ToolGate.Text
