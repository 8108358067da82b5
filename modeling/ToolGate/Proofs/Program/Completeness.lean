import ToolGate.Proofs.Program.Meaning

/-! Simplified paths that lead to the same place from every base are equal. A simplified path is
known from where it leads: an absolute one leads to its names wherever it starts, and a relative one
takes a fixed number of names off the end of the base, which a long enough base brings to light. -/
namespace ToolGate

namespace Path

/-- A directory of a tree without links: neither a `.` nor a `..` is on the way to it. -/
def IsDirectory (base : Location) : Prop :=
  ∀ name ∈ base, isIdle name = false ∧ name ≠ ['.', '.'] ∧ '/' ∉ name

theorem isDirectory_replicate_singleton (count : Nat) {c : Char} (hDot : c ≠ '.') (hSlash : c ≠ '/') :
    IsDirectory (List.replicate count [c]) := by
  intro name hName
  rw [List.eq_of_mem_replicate hName]
  simp [isIdle, hDot, hSlash.symm]

/-- Going up stops at the root. -/
theorem foldl_follow_parents (ups : Nat) (base : Location) :
    (List.replicate ups ['.', '.']).foldl follow base = base.take (base.length - ups) := by
  induction ups generalizing base with
  | zero => simp
  | succ ups ih =>
      rw [List.replicate_succ, List.foldl_cons, follow_parent, ih, List.length_dropLast,
        List.dropLast_eq_take, List.take_take]
      congr 1
      omega

end Path

open ToolGate.Path ProgramPath

section Distinguishing

variable {ups others : Nat} {names extra : List (List Char)}

/-- A path that goes further up drops names which the other one keeps. Two bases with different
names there cannot both be made up for by what follows. -/
theorem ups_le_of_forall_directory
    (h : ∀ base, IsDirectory base →
      base.take (base.length - ups) ++ names = base.take (base.length - others) ++ extra) :
    others ≤ ups := by
  refine Nat.le_of_not_lt fun hLess => ?_
  -- From a base that is just as deep as the second path goes up, nothing but `extra` is left of it.
  have hExtra {c : Char} (hDot : c ≠ '.') (hSlash : c ≠ '/') :
      extra = List.replicate (others - ups) [c] ++ names := by
    have hBase := h _ (isDirectory_replicate_singleton others hDot hSlash)
    simpa using hBase.symm
  have hFirst := hExtra (by decide : 'a' ≠ '.') (by decide)
  have hSecond := hExtra (by decide : 'b' ≠ '.') (by decide)
  obtain ⟨count, hCount⟩ : ∃ count, others - ups = count + 1 := ⟨others - ups - 1, by omega⟩
  rw [hFirst, hCount, List.replicate_succ, List.replicate_succ] at hSecond
  simp at hSecond

/-- Relative paths are told apart by some base. -/
theorem eq_of_forall_directory
    (h : ∀ base, IsDirectory base →
      base.take (base.length - ups) ++ names = base.take (base.length - others) ++ extra) :
    ups = others ∧ names = extra := by
  refine ⟨Nat.le_antisymm ?_ ?_, ?_⟩
  · exact ups_le_of_forall_directory fun base hBase => (h base hBase).symm
  · exact ups_le_of_forall_directory h
  · simpa using h [] (by simp [IsDirectory])

end Distinguishing

section Parts

variable {text other : List Char}

/-- What is left after simplifying cannot be simplified any more. -/
theorem isReduced_simpleParts (text : List Char) :
    IsReduced .posix (if isAbsolute text then .single else .relative) (simpleParts text).reverse := by
  have hNormal := (isNormal_simplify .posix text).parts
  rw [simplify, read_posix] at hNormal
  rwa [simpleParts, simplify, read_posix]

theorem isIdle_of_mem_simpleParts {part : List Char} (h : part ∈ simpleParts text) :
    isIdle part = false :=
  (isSimple_simpleParts text part h).1

/-- An absolute path leads to its own names. -/
theorem resolve_of_absolute (h : isAbsolute text = true) (base : Location) :
    resolve base text = simpleParts text := by
  have hNames : ∀ part ∈ simpleParts text, part ≠ ['.', '.'] := by
    intro part hPart hParent
    simpa [h] using (isSimple_simpleParts text part hPart).2.2 hParent
  have hSteps : (simpleParts text).filter (!isIdle ·) = simpleParts text :=
    List.filter_eq_self.2 fun part hPart => by simp [isIdle_of_mem_simpleParts hPart]
  rw [resolve_eq_foldl_simpleParts, if_pos h, foldl_follow_of_forall hNames, hSteps,
    List.nil_append]

/-- A relative path takes some names off the base and adds its own. -/
theorem exists_ups_of_relative (h : isAbsolute text = false) :
    ∃ ups names, simpleParts text = List.replicate ups ['.', '.'] ++ names ∧
      ∀ base, resolve base text = base.take (base.length - ups) ++ names := by
  obtain ⟨ups, names, hParts, hNames⟩ := (isReduced_simpleParts text).exists_reverse_eq
  rw [List.reverse_reverse] at hParts
  refine ⟨ups, names, hParts, fun base => ?_⟩
  have hParents : ∀ name ∈ names, name ≠ ['.', '.'] :=
    fun name hName hEq => hNames (hEq ▸ hName)
  have hSteps : names.filter (!isIdle ·) = names := by
    refine List.filter_eq_self.2 fun name hName => ?_
    have hPart : name ∈ simpleParts text := hParts ▸ List.mem_append_right _ hName
    simp [isIdle_of_mem_simpleParts hPart]
  rw [resolve_eq_foldl_simpleParts, if_neg (by simp [h]), hParts, List.foldl_append,
    foldl_follow_parents, foldl_follow_of_forall hParents, hSteps]

/-- A relative path leads to different places from different bases. -/
theorem not_forall_directory_resolve_eq (h : isAbsolute text = false) (place : Location) :
    ¬∀ base, IsDirectory base → resolve base text = place := by
  obtain ⟨ups, names, -, hResolve⟩ := exists_ups_of_relative h
  intro hPlace
  -- A base can be so deep that what is left of it is longer than the place.
  have hBase := hPlace _ (isDirectory_replicate_singleton (ups + place.length + 1)
    (by decide : 'a' ≠ '.') (by decide))
  have hLength := congrArg List.length ((hResolve _).symm.trans hBase)
  simp at hLength
  omega

/-- The text of a simplified path follows from whether it is absolute and from what is left of its
components, also for a program that is written without a slash. -/
theorem normalText_eq (h : text ≠ []) : normalText .posix text =
    if isAbsolute text then '/' :: ['/'].intercalate (simpleParts text)
    else if simpleParts text = [] then ['.']
    else ['/'].intercalate (simpleParts text) := by
  by_cases hSlash : '/' ∈ text
  · rw [normalText_of_slash_mem hSlash]
    by_cases hParts : simpleParts text = []
    · simp [hParts]
    · have hTidy := isTidy_intercalate hParts (slash_not_mem_simpleParts text)
        fun part hPart => isIdle_of_mem_simpleParts hPart
      rw [if_neg hTidy.ne_nil, if_neg hParts]
  · have hRelative : isAbsolute text = false := by
      rw [Bool.eq_false_iff]
      exact fun hAbsolute => hSlash (slash_mem_of_isAbsolute hAbsolute)
    have hParts : simpleParts text = (push .relative [] text).reverse := by
      rw [simpleParts_eq, splitOnP_of_slash_not_mem hSlash, hRelative]
      rfl
    rw [normalText_of_slash_not_mem hSlash, hRelative, if_neg Bool.false_ne_true, hParts]
    cases hIdle : isIdle text with
    | true =>
        rw [push_idle hIdle, (isIdle_iff.1 hIdle).resolve_left h]
        rfl
    | false =>
        have hPush : push .relative [] text = [text] := by
          by_cases hParent : text = ['.', '.']
          · rw [hParent]
            rfl
          · exact push_name hIdle hParent
        simp [hPush]

/-- The simplified text depends on the root and on the components that are left, and on nothing
else. -/
theorem normalText_congr (hText : text ≠ []) (hOther : other ≠ [])
    (hAbsolute : isAbsolute text = isAbsolute other) (hParts : simpleParts text = simpleParts other) :
    normalText .posix text = normalText .posix other := by
  rw [normalText_eq hText, normalText_eq hOther, hAbsolute, hParts]

/-- Paths that no base tells apart are simplified to the same text. -/
theorem normalText_eq_of_forall_directory (hText : text ≠ []) (hOther : other ≠ [])
    (h : ∀ base, IsDirectory base → resolve base text = resolve base other) :
    normalText .posix text = normalText .posix other := by
  cases hFirst : isAbsolute text with
  | true =>
      cases hSecond : isAbsolute other with
      | true =>
          have hRoot := h [] (by simp [IsDirectory])
          rw [resolve_of_absolute hFirst, resolve_of_absolute hSecond] at hRoot
          exact normalText_congr hText hOther (hFirst.trans hSecond.symm) hRoot
      | false =>
          refine absurd (fun base hBase => ?_)
            (not_forall_directory_resolve_eq hSecond (simpleParts text))
          rw [← h base hBase, resolve_of_absolute hFirst]
  | false =>
      cases hSecond : isAbsolute other with
      | true =>
          refine absurd (fun base hBase => ?_)
            (not_forall_directory_resolve_eq hFirst (simpleParts other))
          rw [h base hBase, resolve_of_absolute hSecond]
      | false =>
          obtain ⟨ups, names, hParts, hResolve⟩ := exists_ups_of_relative hFirst
          obtain ⟨others, extra, hOthers, hElse⟩ := exists_ups_of_relative hSecond
          have hAlike : ∀ base, IsDirectory base →
              base.take (base.length - ups) ++ names =
                base.take (base.length - others) ++ extra := by
            intro base hBase
            rw [← hResolve, ← hElse, h base hBase]
          obtain ⟨rfl, rfl⟩ := eq_of_forall_directory hAlike
          exact normalText_congr hText hOther (hFirst.trans hSecond.symm)
            (hParts.trans hOthers.symm)

end Parts

/-- The simplified path of a program leads from every base to where the written one leads, and two
programs have the same simplified path if and only if they lead to the same place from every
directory. -/
theorem normalizeProgram_eq_iff {program other : String} (hProgram : program ≠ "")
    (hOther : other ≠ "") :
    (∀ base, resolve base (normalizeProgram .posix program).toList =
      resolve base program.toList) ∧
    (normalizeProgram .posix program = normalizeProgram .posix other ↔
      ∀ base, IsDirectory base → resolve base program.toList = resolve base other.toList) := by
  refine ⟨fun base => ?_, ?_⟩
  · rw [toList_normalizeProgram, resolve_normalText]
  · rw [← String.toList_inj, toList_normalizeProgram, toList_normalizeProgram]
    constructor
    · intro hNormal base _
      rw [← resolve_normalText base program.toList, hNormal, resolve_normalText]
    · exact normalText_eq_of_forall_directory (by simpa using hProgram) (by simpa using hOther)

/-- Two spellings of one program, and two programs that only some directories tell apart. -/
theorem normalizeProgram_eq_iff_tools :
    (∀ base, IsDirectory base →
      resolve base "a/.././../tool/".toList = resolve base "..//tool/x/..".toList) ∧
    ¬∀ base, IsDirectory base → resolve base "../tool".toList = resolve base "tool".toList := by
  have hName : "a/.././../tool/" ≠ "" := by decide
  have hOther : "..//tool/x/.." ≠ "" := by decide
  have hParent : "../tool" ≠ "" := by decide
  have hHere : "tool" ≠ "" := by decide
  exact ⟨(normalizeProgram_eq_iff hName hOther).2.1 (by decide),
    mt (normalizeProgram_eq_iff hParent hHere).2.2 (by decide)⟩

end ToolGate
