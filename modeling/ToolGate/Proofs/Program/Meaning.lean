import ToolGate.Proofs.Program.NormalForm

/-! Where a program's path leads on both platforms. The simplified text is read as the drive and the
root that the written one has, and its components lead to the same place from every base. -/
namespace ToolGate

namespace ProgramPath

open ToolGate.Path

/-- Where the components of a path lead, from a base or from the root. -/
def place (base : Location) (path : ProgramPath) : Location :=
  path.parts.foldl follow (if path.root = .relative then base else [])

/-- Simplified components lead to where all of them lead. -/
theorem place_simplify (base : Location) (platform : Platform) (text : List Char) :
    place base (read platform text).simplify = place base (read platform text) := by
  have hPieces : ∀ piece ∈ (read platform text).parts, '/' ∉ piece :=
    fun _ hPiece => slash_not_mem_of_whole (eq_false_of_mem_splitOnP hPiece)
  exact foldl_follow_foldl_push hPieces (IsSimple.nil _) fun hRoot => if_neg hRoot

namespace IsNormal

variable {platform : Platform} {path : ProgramPath}

/-- Writing a simplified path and reading it again does not move its place. -/
theorem place_read_render (h : IsNormal platform path) (hSafe : IsDriveSafe platform path)
    (base : Location) : place base (read platform (render platform path)) = place base path := by
  have hEmpty (state : Location) : follow state [] = state := rfl
  rw [h.read_render hSafe, place, h.foldl_splitOnP_body hEmpty, place]

/-- A path of which nothing is left leads nowhere. -/
theorem of_render_eq_nil (h : IsNormal platform path) (hNil : render platform path = []) :
    path.drive = [] ∧ path.root = .relative ∧ ∀ base, place base path = base := by
  have hEmpty (state : Location) : follow state [] = state := rfl
  rw [render_eq, List.append_eq_nil_iff] at hNil
  have hRoot : path.root = .relative := by
    rw [← h.rootOf_body, hNil.2]
    cases platform <;> rfl
  refine ⟨hNil.1, hRoot, fun base => ?_⟩
  rw [place, if_pos hRoot, ← h.foldl_splitOnP_body hEmpty, hNil.2]
  rfl

end IsNormal

end ProgramPath

open ToolGate.Path ProgramPath

/-- The simplified text is read as the simplified path, or it is the current directory. -/
theorem reading_normalText {platform : Platform} {text : List Char}
    (hTurns : platform = .windows → ¬TurnsIntoDrive text) :
    let again := read platform (normalText platform text)
    let path := read platform text
    again.drive = path.drive ∧ again.root = path.root ∧
      ∀ base, place base again = place base path := by
  intro again path
  have hNormal : IsNormal platform path.simplify := isNormal_simplify platform text
  have hPlace (base : Location) : place base path.simplify = place base path :=
    place_simplify base platform text
  cases hText : text.any platform.isSeparator with
  | false =>
      have hSame : again = path := by simp only [again, path, normalText_of_any_eq_false hText]
      simp [hSame]
  | true =>
      rcases normalText_of_any hText with hRender | ⟨hDot, hNil⟩
      · have hSafe := isDriveSafe_simplify hTurns hRender
        have hAgain : again = read platform (path.simplify.render platform) := by
          simp only [again, path, hRender]
        have hRead := hNormal.read_render hSafe
        refine ⟨by rw [hAgain, hRead]; rfl, by rw [hAgain, hRead]; rfl, fun base => ?_⟩
        rw [hAgain, hNormal.place_read_render hSafe, hPlace]
      · -- The text is not the path's own here, but a `.` leads nowhere either.
        obtain ⟨hDrive, hRoot, hHere⟩ := hNormal.of_render_eq_nil hNil
        have hAgain : again = ⟨[], .relative, [['.']]⟩ := by
          simp only [again, hDot]
          cases platform <;> rfl
        refine ⟨by rw [hAgain]; exact hDrive.symm, by rw [hAgain]; exact hRoot.symm,
          fun base => ?_⟩
        rw [← hPlace, hHere, hAgain]
        rfl

section Posix

/-- A path leads to the place that is read off its parts. -/
theorem resolve_eq_place_read (base : Location) (text : List Char) :
    resolve base text = place base (read .posix text) := by
  rw [read_posix, resolve, place]
  cases isAbsolute text <;> rfl

/-- A path leads to where the components that are left of it lead. -/
theorem resolve_eq_foldl_simpleParts (base : Location) (text : List Char) :
    resolve base text =
      (simpleParts text).foldl follow (if isAbsolute text then [] else base) := by
  rw [resolve_eq_place_read, ← place_simplify, place, ← simpleParts, simplify, read_posix]
  cases isAbsolute text <;> rfl

/-- Simplifying neither makes a path absolute nor relative. -/
theorem isAbsolute_normalText (text : List Char) :
    isAbsolute (normalText .posix text) = isAbsolute text := by
  have hTurns : Platform.posix = .windows → ¬TurnsIntoDrive text := nofun
  have hRoot := (reading_normalText hTurns).2.1
  rw [read_posix, read_posix] at hRoot
  cases hText : isAbsolute text <;> cases hAgain : isAbsolute (normalText .posix text) <;>
    simp_all

/-- The simplified path of a program leads from every base to where the written one leads. -/
theorem resolve_normalText (base : Location) (text : List Char) :
    resolve base (normalText .posix text) = resolve base text := by
  have hTurns : Platform.posix = .windows → ¬TurnsIntoDrive text := nofun
  rw [resolve_eq_place_read, resolve_eq_place_read, (reading_normalText hTurns).2.2]

end Posix

end ToolGate
