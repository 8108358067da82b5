import ToolGate.Action
import ToolGate.Proofs.Execution.Trace
import ToolGate.Proofs.Options.Meanings

/-! Variables as they are written before a command. Each text is cut at its first equals sign, and
the first text that cannot be cut into a name and a value is the one that is refused. -/
namespace ToolGate

/-- A text that sets a variable: a name, an equals sign and a value. The name is not empty and ends
at the first equals sign. -/
def IsAssignment (text : String) : Prop :=
  ∃ name value : String, name ≠ "" ∧ '=' ∉ name.toList ∧ text = name ++ "=" ++ value

namespace Action

/-- A variable is read if and only if it has a name and an equals sign, and the name ends at the
first one. -/
theorem readVariable_eq_ok_iff {text name value : String} :
    readVariable text = .ok (name, value) ↔
      name ≠ "" ∧ '=' ∉ name.toList ∧ text = name ++ "=" ++ value := by
  have hText : text = name ++ "=" ++ value ↔
      text.toList = name.toList ++ '=' :: value.toList := by
    rw [← String.toList_inj]
    simp
  rw [hText, readVariable]
  constructor
  · intro h
    split at h
    · rename_i c rest found hCut
      obtain ⟨rfl, rfl⟩ := Prod.mk.inj (Except.ok.inj h)
      have hMark := Text.not_mem_cut_fst '=' text.toList
      have hRebuild := Text.cut_rebuild '=' text.toList
      rw [hCut] at hMark hRebuild
      refine ⟨?_, by simpa using hMark, by simpa using hRebuild.symm⟩
      intro hEmpty
      simpa using congrArg String.toList hEmpty
    · cases h
  · rintro ⟨hName, hMark, hEq⟩
    rw [hEq, Text.cut_append hMark]
    cases hChars : name.toList with
    | nil => exact absurd (String.toList_inj.1 hChars) hName
    | cons c rest => simp [← hChars]

theorem isAssignment_iff {text : String} :
    IsAssignment text ↔ ∃ pair, readVariable text = .ok pair := by
  constructor
  · rintro ⟨name, value, h⟩
    exact ⟨(name, value), readVariable_eq_ok_iff.2 h⟩
  · rintro ⟨⟨name, value⟩, h⟩
    exact ⟨name, value, readVariable_eq_ok_iff.1 h⟩

theorem readVariable_of_not {text : String} (h : ¬ IsAssignment text) :
    readVariable text = .error (.malformedVariable text) := by
  rw [isAssignment_iff] at h
  unfold readVariable at h ⊢
  split
  · simp_all
  · rfl

/-- Where some text is malformed, the first such text is named. -/
theorem readVariables_of_malformed {texts : List String} (h : ∃ text ∈ texts, ¬ IsAssignment text) :
    ∃ before text after, texts = before ++ text :: after ∧
      (∀ earlier ∈ before, IsAssignment earlier) ∧ ¬ IsAssignment text ∧
      readVariables texts = .error (.malformedVariable text) := by
  simp only [readVariables, except_map_eq_error_iff]
  induction texts with
  | nil => simp at h
  | cons head rest ih =>
      by_cases hHead : IsAssignment head
      · have hRest : ∃ text ∈ rest, ¬ IsAssignment text := by
          obtain ⟨text, hText, hMalformed⟩ := h
          rcases List.mem_cons.1 hText with rfl | hText
          · exact absurd hHead hMalformed
          · exact ⟨text, hText, hMalformed⟩
        obtain ⟨before, text, after, rfl, hBefore, hMalformed, hError⟩ := ih hRest
        obtain ⟨pair, hPair⟩ := isAssignment_iff.1 hHead
        refine ⟨head :: before, text, after, rfl, ?_, hMalformed, ?_⟩
        · exact List.forall_mem_cons.2 ⟨hHead, hBefore⟩
        · rw [List.mapM_cons, hPair, hError]
          rfl
      · refine ⟨[], head, rest, rfl, by simp, hHead, ?_⟩
        rw [List.mapM_cons, readVariable_of_not hHead]
        rfl

end Action

end ToolGate
