import ToolGate.Proofs.Execution.Trace

/-! What a user sees of the texts that a run has written: a stream, and its last line. A text that
was written as one line can hold newlines of its own, so its last line need not be the whole. -/
namespace ToolGate

/-- The characters of a list of lines, each ended by a newline. -/
def linesText (lines : List String) : List Char :=
  lines.flatMap fun line => line.toList ++ ['\n']

/-- The last line of a text that ends with a newline. -/
def lastLine (text : List Char) : List Char :=
  (text.dropLast.reverse.takeWhile (· ≠ '\n')).reverse

/-- The characters that were written to a stream. -/
def Trace.written (stream : Stream) (trace : List Exchange) : List Char :=
  (texts stream trace).flatMap String.toList

theorem Trace.written_eq {stream : Stream} {trace : List Exchange} {lines : List String}
    (h : texts stream trace = lines.map (· ++ "\n")) : written stream trace = linesText lines := by
  simp [written, h, linesText, List.flatMap_map]

/-- Whole lines leave no begun line behind. -/
theorem takeWhile_reverse_linesText (lines : List String) :
    (linesText lines).reverse.takeWhile (· ≠ '\n') = [] := by
  rcases List.eq_nil_or_concat lines with rfl | ⟨before, line, rfl⟩
  · rfl
  · simp [linesText]

theorem lastLine_linesText_concat (lines : List String) {line : String} (h : '\n' ∉ line.toList) :
    lastLine (linesText (lines ++ [line])) = line.toList := by
  have hText : linesText (lines ++ [line]) = (linesText lines ++ line.toList) ++ ['\n'] := by
    simp [linesText]
  have hLine : ∀ c ∈ line.toList.reverse, decide (c ≠ '\n') = true := by
    intro c hc
    refine decide_eq_true fun hNewline => h ?_
    simpa [hNewline] using hc
  rw [lastLine, hText, List.dropLast_concat, List.reverse_append,
    List.takeWhile_append_of_pos hLine, takeWhile_reverse_linesText, List.append_nil,
    List.reverse_reverse]

/-- The last line of a line is all of it, or what follows its last newline. -/
theorem eq_or_exists_of_lastLine {line : String} {target : List Char}
    (h : lastLine (linesText [line]) = target) :
    line.toList = target ∨ ∃ before, line.toList = before ++ '\n' :: target := by
  have hReverse : line.toList.reverse.takeWhile (· ≠ '\n') = target.reverse := by
    simpa [lastLine, linesText, List.dropLast_concat] using congrArg List.reverse h
  have hSplit : target.reverse ++ line.toList.reverse.dropWhile (· ≠ '\n') =
      line.toList.reverse := by
    rw [← hReverse, List.takeWhile_append_dropWhile]
  cases hRest : line.toList.reverse.dropWhile (· ≠ '\n') with
  | nil =>
      rw [hRest, List.append_nil] at hSplit
      exact Or.inl (List.reverse_inj.1 hSplit).symm
  | cons c rest =>
      have hNewline := List.head?_dropWhile_not (· ≠ '\n') line.toList.reverse
      rw [hRest] at hNewline hSplit
      refine Or.inr ⟨rest.reverse, ?_⟩
      rw [← List.reverse_reverse line.toList, ← hSplit]
      simpa using hNewline

end ToolGate
