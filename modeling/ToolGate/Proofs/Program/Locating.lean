import ToolGate.Proofs.Execution.Command
import ToolGate.Proofs.Program.Meaning

/-! Which file is started for a program without the shell. The test on the written path, the number
of components of the simplified one and the joining with the working directory each look at the
slashes in their own way; they agree because the simplified path of a relative program is tidy. -/
namespace ToolGate

namespace Path

variable {path : List Char}

/-- A path begins with a step, with the root, or with a `.` that stands alone. -/
theorem head_cases (path : List Char) :
    head path = [] ∨ isAbsolute path = true ∨
      (head path = ['.'] ∧ ['.'] ∈ path.splitOnP (· == '/')) := by
  unfold head
  split
  · exact Or.inr (Or.inl rfl)
  · have hPieces : ['.'].splitOnP (· == '/') = [['.']] := splitOnP_of_slash_not_mem (by simp)
    exact Or.inr (Or.inr ⟨rfl, hPieces ▸ List.mem_cons_self⟩)
  · rename_i rest
    have hDot : ∀ c ∈ ['.'], (c == '/') = false := by simp
    have hPieces := List.splitOnP_append_cons_of_forall_mem hDot '/' rfl rest
    exact Or.inr (Or.inr ⟨rfl, hPieces ▸ List.mem_cons_self⟩)
  · exact Or.inl rfl

theorem components_of_head_nil (h : head path = []) :
    components path = (path.splitOnP (· == '/')).filter (!isIdle ·) := by
  simp [components, pieces, h]

/-- Nothing is lost when a tidy path is cut: each piece is a component. -/
theorem IsTidy.components_eq (h : IsTidy path) :
    components path = path.splitOnP (· == '/') := by
  have hHead : head path = [] := by
    rcases head_cases path with hHead | hAbsolute | ⟨-, hDot⟩
    · exact hHead
    · simp [h.isAbsolute_eq_false] at hAbsolute
    · exact absurd (h _ hDot) (by decide)
  rw [components_of_head_nil hHead, List.filter_eq_self]
  intro piece hPiece
  simp [h piece hPiece]

/-- A relative path that leads down only: no `.` at its beginning, and no `..` in it. -/
structure Descends (path : List Char) : Prop where
  relative : isAbsolute path = false
  ordinary : ∀ piece ∈ components path, piece ≠ ['.'] ∧ piece ≠ ['.', '.']

/-- Its components are the names that it adds to the base. -/
theorem Descends.resolve_eq (h : Descends path) (base : Location) :
    resolve base path = base ++ components path := by
  have hHead : head path = [] := by
    rcases head_cases path with hHead | hAbsolute | ⟨hDot, -⟩
    · exact hHead
    · simp [h.relative] at hAbsolute
    · exact absurd rfl (h.ordinary ['.'] (by simp [components, hDot])).1
  have hParent : ∀ piece ∈ path.splitOnP (· == '/'), piece ≠ ['.', '.'] := by
    intro piece hPiece hEq
    refine (h.ordinary piece ?_).2 hEq
    rw [components_of_head_nil hHead, List.mem_filter]
    exact ⟨hPiece, hEq ▸ rfl⟩
  rw [resolve_of_not_isAbsolute h.relative, foldl_follow_of_forall hParent,
    components_of_head_nil hHead]

/-- From a place that a path has led to already, a path that is joined to it leads further down by
the same names. -/
theorem Descends.resolve_join {directory path : String} (hDirectory : Descends directory.toList)
    (hPath : Descends path.toList) (base : Location) :
    resolve (resolve base directory.toList) (join directory path).toList =
      base ++ components directory.toList ++ components directory.toList ++
        components path.toList := by
  rw [Path.resolve_join, hPath.resolve_eq, hDirectory.resolve_eq, hDirectory.resolve_eq]

end Path

open ToolGate.Path

/-- A program that is looked for in the directories of the search list. It is a name: a text with a
slash is a path. -/
def IsSearched (program : String) : Prop :=
  program ≠ "" ∧ '/' ∉ program.toList

/-- The components of a program's simplified path. -/
def simpleComponents (program : String) : List (List Char) :=
  components (normalText .posix program.toList)

/-- What `located`, the file that is started for a program in a working directory, has to be. -/
structure IsLocated (program directory located : String) : Prop where
  /-- An absolute path stays where it is. -/
  absolute : isAbsolute program.toList = true → located = normalizeProgram .posix program
  /-- A relative path with several components is seen from the working directory. -/
  nested : isAbsolute program.toList = false → 2 ≤ (simpleComponents program).length →
    located = join directory (normalizeProgram .posix program)
  /-- Any other path is a name in the end, and the name is searched for. -/
  bare : isAbsolute program.toList = false → (simpleComponents program).length < 2 →
    located = normalizeProgram .posix program ∧ IsSearched located
  /-- In an absolute directory, what is not searched for stands where the program was written to
  stand, as seen from the directory. -/
  resolved : isAbsolute directory.toList = true →
    isAbsolute program.toList = true ∨ 2 ≤ (simpleComponents program).length →
    ∀ base, resolve base located.toList = resolve (resolve base directory.toList) program.toList
  /-- A written path is searched for if a single component is left of it. -/
  searched_path : '/' ∈ program.toList →
    (IsSearched located ↔
      isAbsolute program.toList = false ∧ (simpleComponents program).length = 1)
  /-- A written name is always searched for. -/
  searched_name : '/' ∉ program.toList → IsSearched located
  /-- A relative directory counts twice, since the process that looks for the file has entered it
  already. -/
  displaced : Descends directory.toList → components directory.toList ≠ [] →
    isAbsolute program.toList = false → 2 ≤ (simpleComponents program).length →
    ['.', '.'] ∉ simpleComponents program →
    ∀ base,
      let child := resolve base directory.toList
      resolve child located.toList =
          base ++ components directory.toList ++ components directory.toList ++
            simpleComponents program ∧
        resolve child located.toList ≠
          base ++ components directory.toList ++ simpleComponents program

section Locating

variable {program : String}

/-- The test on the simplified path says the same about the written one. -/
theorem locateProgram_normalizeProgram (directory : String) :
    locateProgram (normalizeProgram .posix program) (some directory) =
      if isAbsolute program.toList = false ∧ 2 ≤ (simpleComponents program).length then
        join directory (normalizeProgram .posix program)
      else normalizeProgram .posix program := by
  have hNormal : isAbsolute (normalizeProgram .posix program).toList =
      isAbsolute program.toList := by
    rw [toList_normalizeProgram, isAbsolute_normalText]
  simp [locateProgram, simpleComponents, ← toList_normalizeProgram, hNormal, Nat.succ_le_iff]

/-- A program with an absolute path is found without the directory. -/
theorem isLocated_absolute (directory : String) (hRooted : isAbsolute program.toList = true) :
    IsLocated program directory (normalizeProgram .posix program) where
  absolute _ := rfl
  nested h := by simp [hRooted] at h
  bare h := by simp [hRooted] at h
  resolved _ _ base := by
    rw [toList_normalizeProgram, resolve_normalText]
    exact resolve_of_isAbsolute hRooted _ _
  searched_path _ := by
    have hNormal : isAbsolute (normalizeProgram .posix program).toList = true := by
      rw [toList_normalizeProgram, isAbsolute_normalText, hRooted]
    exact iff_of_false (fun h => h.2 (slash_mem_of_isAbsolute hNormal)) (by simp [hRooted])
  searched_name h := absurd (slash_mem_of_isAbsolute hRooted) h
  displaced _ _ h := by simp [hRooted] at h

variable (hProgram : program ≠ "") (hRelative : isAbsolute program.toList = false)

include hProgram hRelative

/-- Simplified, a relative path has a slash if and only if it has two components. -/
theorem length_simpleComponents :
    1 ≤ (simpleComponents program).length ∧
    ('/' ∈ (normalizeProgram .posix program).toList ↔ 2 ≤ (simpleComponents program).length) := by
  have hText : program.toList ≠ [] := by simpa using hProgram
  rw [simpleComponents, toList_normalizeProgram]
  rcases normalText_relative hRelative hText with hDot | hTidy
  · rw [hDot]
    decide
  · rw [hTidy.components_eq]
    exact ⟨List.length_pos_iff.2 (List.splitOnP_ne_nil _ _), two_le_length_splitOnP_iff.symm⟩

/-- A simplified path with more than one component, none of which leads up, leads down. -/
theorem descends_normalizeProgram (hNested : 2 ≤ (simpleComponents program).length)
    (hParent : ['.', '.'] ∉ simpleComponents program) :
    Descends (normalizeProgram .posix program).toList := by
  have hText : program.toList ≠ [] := by simpa using hProgram
  rw [toList_normalizeProgram]
  rw [simpleComponents] at hNested hParent
  rcases normalText_relative hRelative hText with hDot | hTidy
  · rw [hDot] at hNested
    exact absurd hNested (by decide)
  · refine ⟨hTidy.isAbsolute_eq_false, fun piece hPiece => ⟨?_, ?_⟩⟩
    · rintro rfl
      rw [hTidy.components_eq] at hPiece
      exact absurd (hTidy _ hPiece) (by decide)
    · rintro rfl
      exact hParent hPiece

/-- A program of at most one component is a bare name, also if it was written with a dot and a slash
before it. -/
theorem isSearched_normalizeProgram (hFew : (simpleComponents program).length < 2) :
    IsSearched (normalizeProgram .posix program) := by
  obtain ⟨hSome, hSlash⟩ := length_simpleComponents hProgram hRelative
  refine ⟨?_, fun h => absurd (hSlash.1 h) (by omega)⟩
  intro hEmpty
  rw [simpleComponents, ← toList_normalizeProgram, hEmpty] at hSome
  exact absurd hSome (by decide)

/-- A path that was joined to a directory is not searched for. -/
theorem not_isSearched_join (directory : String) (hNested : 2 ≤ (simpleComponents program).length) :
    ¬IsSearched (join directory (normalizeProgram .posix program)) := by
  have hSlash := (length_simpleComponents hProgram hRelative).2.2 hNested
  rintro ⟨-, hNone⟩
  apply hNone
  unfold join
  split
  · exact hSlash
  split <;> simp [hSlash]

/-- A program of several components is seen from the directory. -/
theorem isLocated_nested (directory : String) (hNested : 2 ≤ (simpleComponents program).length) :
    IsLocated program directory (join directory (normalizeProgram .posix program)) where
  absolute h := by simp [hRelative] at h
  nested _ _ := rfl
  bare _ h := absurd hNested (by omega)
  resolved _ _ base := by rw [resolve_join, toList_normalizeProgram, resolve_normalText]
  searched_path _ :=
    iff_of_false (not_isSearched_join hProgram hRelative directory hNested) (by omega)
  searched_name h := by
    have hSlash := (length_simpleComponents hProgram hRelative).2.2 hNested
    rw [toList_normalizeProgram, normalText_of_slash_not_mem h] at hSlash
    exact absurd hSlash h
  displaced hDirectory hSome _ _ hParent base := by
    have hPlace := hDirectory.resolve_join
      (descends_normalizeProgram hProgram hRelative hNested hParent) base
    rw [toList_normalizeProgram] at hPlace
    refine ⟨hPlace, fun hEq => ?_⟩
    have hLengths := congrArg List.length (hPlace.symm.trans hEq)
    have hLength := List.length_pos_iff.2 hSome
    simp only [List.length_append, simpleComponents] at hLengths
    omega

/-- A bare name is left to the search list. -/
theorem isLocated_bare (directory : String) (hFew : (simpleComponents program).length < 2) :
    IsLocated program directory (normalizeProgram .posix program) where
  absolute h := by simp [hRelative] at h
  nested _ h := absurd hFew (by omega)
  bare _ _ := ⟨rfl, isSearched_normalizeProgram hProgram hRelative hFew⟩
  resolved _ h := by
    have hMany := h.resolve_left (by simp [hRelative])
    omega
  searched_path _ := by
    have hSome := (length_simpleComponents hProgram hRelative).1
    exact iff_of_true (isSearched_normalizeProgram hProgram hRelative hFew)
      ⟨hRelative, by omega⟩
  searched_name _ := isSearched_normalizeProgram hProgram hRelative hFew
  displaced _ _ _ h := absurd hFew (by omega)

end Locating

/-- The written path, its components and the working directory fit together. -/
theorem isLocated_locateProgram {program : String} (hProgram : program ≠ "") (directory : String) :
    IsLocated program directory
      (locateProgram (normalizeProgram .posix program) (some directory)) := by
  rw [locateProgram_normalizeProgram]
  cases hRooted : isAbsolute program.toList with
  | true =>
      rw [if_neg (by simp)]
      exact isLocated_absolute directory hRooted
  | false =>
      by_cases hNested : 2 ≤ (simpleComponents program).length
      · rw [if_pos ⟨rfl, hNested⟩]
        exact isLocated_nested hProgram hRooted directory hNested
      · rw [if_neg (by simp [hNested])]
        exact isLocated_bare hProgram hRooted directory (by omega)

section Run

variable {σ : Type}

/-- A run without the shell starts one process, and which file it starts is settled by the written
path and the working directory. -/
theorem runCommand_isLocated (world : World σ) (state : σ) (inherited : Environment)
    {program directory : String} (args : List String) {options : RunOptions}
    (hProgram : program ≠ "") (hPlain : options.usesShell = false)
    (hDirectory : options.directory = some directory) :
    ∃ process reply,
      Trace.starts ((runCommand inherited (program :: args) options).run world state).trace =
        [(process, reply)] ∧
      process.directory = some directory ∧ IsLocated program directory process.program := by
  obtain ⟨reply, hStarts⟩ := starts_runCommand world inherited program args state options
  refine ⟨_, reply, hStarts, ?_⟩
  simp only [spawnRequest, hPlain, hDirectory]
  exact ⟨rfl, isLocated_locateProgram hProgram directory⟩

/-- The same program in an absolute working directory, where it is found, and in a relative one,
where it is looked for too deep. -/
theorem runCommand_isLocated_tool :
    let starts (directory : String) := Trace.starts
      ((runCommand .empty ["./target//dlint", "--fix"]
        (RunOptions.silent.inDirectory directory)).run (.replying (.ok (.exited 0))) ()).trace
    (∃ process reply, starts "/work" = [(process, reply)] ∧
      process.program = "/work/target/dlint") ∧
    ∃ process reply, starts "work" = [(process, reply)] ∧
      process.program = "work/target/dlint" ∧
      resolve (resolve ["home".toList] "work".toList) process.program.toList =
        ["home".toList, "work".toList, "work".toList, "target".toList, "dlint".toList] := by
  have hProgram : "./target//dlint" ≠ "" := by decide
  constructor
  · obtain ⟨process, reply, hStarts, -, hLocated⟩ :=
      runCommand_isLocated (.replying (.ok (.exited 0))) () .empty ["--fix"] hProgram
        (show (RunOptions.silent.inDirectory "/work").usesShell = false from rfl) rfl
    exact ⟨process, reply, hStarts, hLocated.nested (by decide) (by decide)⟩
  · obtain ⟨process, reply, hStarts, -, hLocated⟩ :=
      runCommand_isLocated (.replying (.ok (.exited 0))) () .empty ["--fix"] hProgram
        (show (RunOptions.silent.inDirectory "work").usesShell = false from rfl) rfl
    have hDirectory : Descends "work".toList := ⟨by decide, by decide⟩
    refine ⟨process, reply, hStarts, hLocated.nested (by decide) (by decide), ?_⟩
    exact (hLocated.displaced hDirectory (by decide) (by decide) (by decide) (by decide) _).1

end Run

end ToolGate
