import ToolGate.Proofs.CommandLine.PosixWords

/-! A joined line as it is shown to a user. It can run over several lines of a terminal, but a break
always stands in quotes that are closed after it, so the last of them ends like no other text. -/
namespace ToolGate.CommandLine

namespace Mode

/-- Single quotes are left by a single quote only. -/
theorem quote_mem_of_marks?_single {text : List Char} {marks : List Mark}
    (h : marks? .single text = some marks) : '\'' ∈ text := by
  induction text generalizing marks with
  | nil => simp [marks?] at h
  | cons c rest ih =>
      by_cases hQuote : c = '\''
      · simp [hQuote]
      · rw [marks?, Option.map_eq_some_iff] at h
        obtain ⟨tail, hTail, -⟩ := h
        simp only [turn, hQuote, if_false] at hTail
        exact List.mem_cons_of_mem c (ih hTail)

/-- On a line without expansions a newline stands in single quotes, which are closed after it. -/
theorem quote_mem_of_marks?_newline {mode : Mode} {before after : List Char} {marks : List Mark}
    (h : mode.marks? (before ++ '\n' :: after) = some marks)
    (hHarmless : marks.all Mark.isHarmless = true) : '\'' ∈ after := by
  induction before generalizing mode marks with
  | nil =>
      rw [List.nil_append, marks?, Option.map_eq_some_iff] at h
      obtain ⟨tail, hTail, rfl⟩ := h
      -- Elsewhere a newline ends a word, is joined away or stands between double quotes.
      cases mode with
      | single => exact quote_mem_of_marks?_single hTail
      | bare => simp [turn, isBlank, Mark.isHarmless] at hHarmless
      | double => simp [turn, Mark.isHarmless] at hHarmless
      | escaped => simp [turn, Mark.isHarmless] at hHarmless
      | doubleEscaped => simp [turn, Mark.isHarmless] at hHarmless
  | cons c before ih =>
      rw [List.cons_append, marks?, Option.map_eq_some_iff] at h
      obtain ⟨tail, hTail, rfl⟩ := h
      rw [List.all_cons, Bool.and_eq_true] at hHarmless
      exact ih hTail hHarmless.2

end Mode

/-- On a joined line there is nothing that a shell would act upon. -/
theorem isHarmless_ofLine (args : List (List Char)) :
    (Mark.ofLine args).all Mark.isHarmless = true :=
  List.all_eq_true.2 fun _ h => Mark.mem_ofLine h

/-- A newline can only stand inside of quotes, and these are closed later on the line. -/
theorem quote_mem_of_join_newline {args : List String} {before after : List Char}
    (h : (join .posix args).toList = before ++ '\n' :: after) : '\'' ∈ after :=
  Mode.quote_mem_of_marks?_newline (h ▸ marks?_join args) (isHarmless_ofLine _)

/-- A shell takes a line apart into the arguments that were joined. -/
theorem shellWords_line (args : List String) : shellWords (join .posix args) = some args := by
  rw [shellWords, marks?_join, Option.map_some, Mark.words_ofLine, List.map_map]
  simp [Function.comp_def]

/-- Different argument lists have different lines. -/
theorem join_posix_injective {first second : List String}
    (h : join .posix first = join .posix second) : first = second := by
  have hWords := shellWords_line first
  rw [h, shellWords_line second] at hWords
  exact (Option.some.inj hWords).symm

/-- A line begins with a character that stands outside quotes. -/
theorem head_of_join {args : List String} {c : Char} {rest : List Char}
    (h : (join .posix args).toList = c :: rest) :
    isSafe c = true ∨ c = ' ' ∨ c = '\'' ∨ c = '"' := by
  have hMarks := marks?_join args
  have hHarmless := isHarmless_ofLine (args.map String.toList)
  rw [h, Mode.marks?, Option.map_eq_some_iff] at hMarks
  obtain ⟨tail, -, hLine⟩ := hMarks
  rw [← hLine, List.all_cons, Bool.and_eq_true] at hHarmless
  by_cases hSingle : c = '\''
  · exact Or.inr (Or.inr (Or.inl hSingle))
  by_cases hDouble : c = '"'
  · exact Or.inr (Or.inr (Or.inr hDouble))
  by_cases hEscape : c = '\\'
  · simp [hEscape, Mode.turn, Mark.isHarmless] at hHarmless
  cases hBlank : Mode.isBlank c with
  | true =>
      simp [Mode.turn, hSingle, hDouble, hEscape, hBlank, Mark.isHarmless] at hHarmless
      exact Or.inr (Or.inl hHarmless.1)
  | false =>
      simp [Mode.turn, hSingle, hDouble, hEscape, hBlank, Mark.isHarmless] at hHarmless
      exact Or.inl hHarmless.1

end ToolGate.CommandLine
