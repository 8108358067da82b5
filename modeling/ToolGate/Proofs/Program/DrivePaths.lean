import ToolGate.Proofs.Program.Meaning

/-! What the path of a program means where there are drives. It is read here without the simplifier:
a letter, a kind of root, and the place that the components lead to. Simplified, a path is read as
the same three, unless its first name has become a drive. -/
namespace ToolGate

namespace DrivePath

open ToolGate.Path ProgramPath

/-- The letter of the drive that a text begins with. -/
def drive? : List Char → Option Char
  | letter :: ':' :: _ => if letter.isAlpha then some letter else none
  | _ => none

/-- What stands after the drive. -/
def afterDrive (text : List Char) : List Char :=
  if (drive? text).isSome then text.drop 2 else text

/-- The kind of root after the drive: two separators are a kind of their own, and any other number
of them counts as one. -/
def root (text : List Char) : RootKind :=
  match ((afterDrive text).takeWhile Platform.windows.isSeparator).length with
  | 0 => .relative
  | 2 => .double
  | _ => .single

/-- Where the components lead, from a base or from the root. -/
def resolve (base : Location) (text : List Char) : Location :=
  ((afterDrive text).splitOnP Platform.windows.isSeparator).foldl follow
    (if root text = .relative then base else [])

theorem drive?_eq_none {text : List Char} (h : ¬BeginsWithDrive text) : drive? text = none := by
  unfold drive?
  split
  · exact if_neg fun hAlpha => h ⟨_, _, hAlpha, rfl⟩
  · rfl

theorem splitDrive_windows (text : List Char) :
    splitDrive .windows text =
      ((drive? text).elim [] fun letter => [letter, ':'], afterDrive text) := by
  by_cases hDrive : BeginsWithDrive text
  · obtain ⟨letter, rest, hAlpha, rfl⟩ := hDrive
    have hLetter : drive? (letter :: ':' :: rest) = some letter := if_pos hAlpha
    simp [splitDrive_of_beginsWithDrive hAlpha, afterDrive, hLetter]
  · simp [splitDrive_of_not_beginsWithDrive fun _ => hDrive, afterDrive, drive?_eq_none hDrive]

/-- The two readings cut a text at the same places. -/
theorem read_windows (text : List Char) :
    ProgramPath.read .windows text =
      { drive := (drive? text).elim [] fun letter => [letter, ':']
        root := root text
        parts := (afterDrive text).splitOnP Platform.windows.isSeparator } := by
  have hRoot (leading : Nat) : rootOf .windows leading =
      match leading with
      | 0 => .relative
      | 2 => .double
      | _ => .single := by
    match leading with
    | 0 => rfl
    | 1 => rfl
    | 2 => rfl
    | _ + 3 => rfl
  simp only [ProgramPath.read, splitDrive_windows, hRoot]
  rfl

/-- Following the pieces of a path leads to its place as it is read on the platform with drives. -/
theorem resolve_eq_place (base : Location) (text : List Char) :
    resolve base text = place base (ProgramPath.read .windows text) := by
  rw [read_windows]
  rfl

/-- Where drive and root are the same and lead to the same places, so are the readings. -/
theorem reading_congr {first second : List Char}
    (hDrive : (ProgramPath.read .windows first).drive = (ProgramPath.read .windows second).drive)
    (hRoot : (ProgramPath.read .windows first).root = (ProgramPath.read .windows second).root)
    (hPlace : ∀ base, place base (ProgramPath.read .windows first) =
      place base (ProgramPath.read .windows second)) :
    drive? first = drive? second ∧ root first = root second ∧
      ∀ base, resolve base first = resolve base second := by
  refine ⟨?_, ?_, fun base => ?_⟩
  · simp only [read_windows] at hDrive
    cases hFirst : drive? first <;> cases hSecond : drive? second <;> simp_all
  · simpa only [read_windows] using hRoot
  · rw [resolve_eq_place, resolve_eq_place, hPlace]

end DrivePath

open ToolGate.Path ProgramPath

/-- A simplified program has the drive and the kind of root that the written one has, and from every
base its components lead to the same place. The one exception is a relative path without a drive
that has turned into one with a drive, which can happen. -/
theorem normalizeProgram_reading :
    (∀ program : String, ¬TurnsIntoDrive program.toList →
      let simplified := (normalizeProgram .windows program).toList
      DrivePath.drive? simplified = DrivePath.drive? program.toList ∧
      DrivePath.root simplified = DrivePath.root program.toList ∧
      ∀ base, DrivePath.resolve base simplified =
        DrivePath.resolve base program.toList) ∧
    TurnsIntoDrive "./C:/x".toList ∧ normalizeProgram .windows "./C:/x" = "C:\\x" := by
  refine ⟨?_, ?_, by decide⟩
  · intro program hTurns simplified
    have hText : simplified = normalText .windows program.toList := toList_normalizeProgram _ _
    obtain ⟨hDrive, hRoot, hPlace⟩ := reading_normalText fun _ => hTurns
    rw [hText]
    exact DrivePath.reading_congr hDrive hRoot hPlace
  · refine ⟨?_, ?_, 'C', ['\\', 'x'], rfl, by decide⟩
    · rintro ⟨letter, rest, -, hEq⟩
      simp at hEq
    · rintro ⟨c, hHead, hSeparator⟩
      obtain rfl : '.' = c := by simpa using hHead
      exact absurd hSeparator (by decide)

/-- Below two separators, more steps up than there are names. -/
theorem normalizeProgram_reading_share :
    let program := "//server/share\\..\\.\\../..\\tool/"
    ¬TurnsIntoDrive program.toList ∧ normalizeProgram .windows program = "\\\\tool" ∧
    DrivePath.root "\\\\tool".toList = DrivePath.root program.toList ∧
    ∀ base, DrivePath.resolve base "\\\\tool".toList =
      DrivePath.resolve base program.toList := by
  intro program
  have hTurns : ¬TurnsIntoDrive program.toList := fun h => h.2.1 ⟨'/', by decide, rfl⟩
  have hText : normalizeProgram .windows program = "\\\\tool" := by decide
  obtain ⟨-, hRoot, hPlace⟩ := normalizeProgram_reading.1 program hTurns
  rw [hText] at hRoot hPlace
  exact ⟨hTurns, hText, hRoot, hPlace⟩

end ToolGate
