import ToolGate.Proofs.Program.Resolution

/-! The form of a simplified path on both platforms, and what it is read back as. The stack of
components is reduced at every step: `..` lies at its bottom only, and only where there is no root.
A reduced stack is what the same components are pushed to again, so that a second reading can differ
from the first one only in the drive. -/
namespace ToolGate

theorem Platform.isSeparator_slash (platform : Platform) : platform.isSeparator '/' = true := by
  cases platform <;> rfl

namespace ProgramPath

open ToolGate.Path

/-- A stack of components in which nothing is left to simplify: each is a step without a separator,
and a `..` has nothing but its like below it. -/
structure IsReduced (platform : Platform) (root : RootKind) (stack : List (List Char)) : Prop where
  simple : IsSimple root stack
  whole : ∀ part ∈ stack, ∀ c ∈ part, platform.isSeparator c = false
  lowest : stack.Pairwise fun last before => last = ['.', '.'] → before = ['.', '.']

section Push

variable {platform : Platform} {root : RootKind} {stack : List (List Char)} {part : List Char}

theorem slash_not_mem_of_whole (h : ∀ c ∈ part, platform.isSeparator c = false) : '/' ∉ part :=
  fun hSlash => by simpa [platform.isSeparator_slash] using h '/' hSlash

theorem slash_not_mem_intercalate {mark : Char} (hMark : mark ≠ '/') {parts : List (List Char)}
    (h : ∀ part ∈ parts, '/' ∉ part) : '/' ∉ [mark].intercalate parts := by
  induction parts with
  | nil => exact List.not_mem_nil
  | cons part rest ih =>
      rw [List.forall_mem_cons] at h
      cases rest with
      | nil => simpa using h.1
      | cons next others =>
          rw [List.intercalate_cons_cons]
          simp [h.1, hMark.symm, ih h.2]

theorem mem_push {other : List Char} (h : other ∈ push root stack part) :
    other = part ∨ other ∈ stack := by
  unfold push at h
  grind

theorem IsReduced.nil (platform : Platform) (root : RootKind) : IsReduced platform root [] :=
  ⟨IsSimple.nil root, List.forall_mem_nil _, List.Pairwise.nil⟩

theorem IsReduced.of_append {first second : List (List Char)}
    (h : IsReduced platform root (first ++ second)) : IsReduced platform root second where
  simple part hPart := h.simple part (List.mem_append_right first hPart)
  whole part hPart := h.whole part (List.mem_append_right first hPart)
  lowest := (List.pairwise_append.1 h.lowest).2.1

/-- If the last component leads up, so do all before it. -/
theorem IsReduced.forall_parent (h : IsReduced platform root stack)
    (hHead : ∀ name ∈ stack.head?, name = ['.', '.']) : ∀ part ∈ stack, part = ['.', '.'] := by
  cases stack with
  | nil => exact List.forall_mem_nil _
  | cons last below =>
      have hLast := hHead last rfl
      exact List.forall_mem_cons.2 ⟨hLast, fun part hPart =>
        (List.pairwise_cons.1 h.lowest).1 part hPart hLast⟩

/-- One component: the stack stays reduced. -/
theorem IsReduced.push (hStack : IsReduced platform root stack)
    (hPart : ∀ c ∈ part, platform.isSeparator c = false) :
    IsReduced platform root (push root stack part) := by
  refine ⟨isSimple_push hStack.simple (slash_not_mem_of_whole hPart), ?_, ?_⟩
  · intro other hOther
    rcases mem_push hOther with rfl | hOther
    · exact hPart
    · exact hStack.whole other hOther
  · cases hIdle : isIdle part with
    | true =>
        rw [push_idle hIdle]
        exact hStack.lowest
    | false =>
        by_cases hParent : part = ['.', '.']
        · subst hParent
          rcases hStack.simple.parent_cases with
            ⟨last, below, rfl, hLast⟩ | ⟨rfl, hHead⟩ | ⟨hRoot, rfl⟩
          · rw [push_parent_name hLast]
            exact (List.pairwise_cons.1 hStack.lowest).2
          · rw [push_parent_relative hHead, List.pairwise_cons]
            exact ⟨fun before hBefore _ => hStack.forall_parent hHead before hBefore,
              hStack.lowest⟩
          · rw [push_parent_root hRoot]
            exact hStack.lowest
        · rw [push_name hIdle hParent, List.pairwise_cons]
          exact ⟨fun _ _ hEq => absurd hEq hParent, hStack.lowest⟩

/-- All components, by induction on those that have not been read yet. -/
theorem IsReduced.foldl_push {pieces : List (List Char)} (hStack : IsReduced platform root stack)
    (hPieces : ∀ piece ∈ pieces, ∀ c ∈ piece, platform.isSeparator c = false) :
    IsReduced platform root (pieces.foldl (ProgramPath.push root) stack) := by
  induction pieces generalizing stack with
  | nil => exact hStack
  | cons piece rest ih =>
      rw [List.forall_mem_cons] at hPieces
      exact ih (hStack.push hPieces.1) hPieces.2

/-- In a reduced stack every component is where it would be pushed to. -/
theorem IsReduced.push_eq_cons (h : IsReduced platform root (part :: stack)) :
    ProgramPath.push root stack part = part :: stack := by
  obtain ⟨⟨hIdle, -, hRoot⟩, -⟩ := isSimple_cons.1 h.simple
  by_cases hParent : part = ['.', '.']
  · have hBelow := (List.pairwise_cons.1 h.lowest).1
    rw [hParent, hRoot hParent]
    exact push_parent_relative fun name hName =>
      hBelow name (List.mem_of_mem_head? hName) hParent
  · exact push_name hIdle hParent

/-- Components that are reduced already are all kept. -/
theorem IsReduced.foldl_push_eq {parts : List (List Char)}
    (h : IsReduced platform root (parts.reverse ++ stack)) :
    parts.foldl (ProgramPath.push root) stack = parts.reverse ++ stack := by
  induction parts generalizing stack with
  | nil => rfl
  | cons part rest ih =>
      have hRest : IsReduced platform root (rest.reverse ++ part :: stack) := by simpa using h
      rw [List.foldl_cons, hRest.of_append.push_eq_cons, ih hRest]
      simp

/-- From the front, a reduced stack is some `..` and then names. -/
theorem IsReduced.exists_reverse_eq (h : IsReduced platform root stack) :
    ∃ ups names, stack.reverse = List.replicate ups ['.', '.'] ++ names ∧ ['.', '.'] ∉ names := by
  induction stack with
  | nil => exact ⟨0, [], rfl, List.not_mem_nil⟩
  | cons part rest ih =>
      by_cases hParent : part = ['.', '.']
      · have hAll : (part :: rest).reverse = List.replicate (rest.length + 1) ['.', '.'] := by
          refine List.eq_replicate_iff.2 ⟨by simp, fun other hOther => ?_⟩
          exact h.forall_parent (by simp [hParent]) other (List.mem_reverse.1 hOther)
        exact ⟨rest.length + 1, [], by rw [hAll, List.append_nil], List.not_mem_nil⟩
      · have hRest : IsReduced platform root ([part] ++ rest) := h
        obtain ⟨ups, names, hEq, hNames⟩ := ih hRest.of_append
        exact ⟨ups, names ++ [part], by simp [hEq], by simp [hNames, Ne.symm hParent]⟩

end Push

/-- A text that begins with a drive: a letter of the ASCII alphabet and a colon. -/
def BeginsWithDrive (text : List Char) : Prop :=
  ∃ letter rest, letter.isAlpha = true ∧ text = letter :: ':' :: rest

/-- A text that begins with a separator. -/
def BeginsWithSeparator (platform : Platform) (text : List Char) : Prop :=
  ∃ c ∈ text.head?, platform.isSeparator c = true

section Reading

variable {platform : Platform} {text : List Char}

/-- Without a drive nothing is cut off. -/
theorem splitDrive_of_not_beginsWithDrive (h : platform = .windows → ¬BeginsWithDrive text) :
    splitDrive platform text = ([], text) := by
  unfold splitDrive
  split
  · rename_i letter rest
    rw [if_neg]
    exact fun hAlpha => h rfl ⟨letter, rest, hAlpha, rfl⟩
  · rfl

theorem splitDrive_of_beginsWithDrive {letter : Char} (h : letter.isAlpha = true)
    (rest : List Char) : splitDrive .windows (letter :: ':' :: rest) = ([letter, ':'], rest) :=
  if_pos h

theorem BeginsWithDrive.not_beginsWithSeparator (h : BeginsWithDrive text) :
    ¬BeginsWithSeparator .windows text := by
  obtain ⟨letter, rest, hAlpha, rfl⟩ := h
  rintro ⟨c, hHead, hSeparator⟩
  obtain rfl : letter = c := by simpa using hHead
  have hMark : letter = '/' ∨ letter = '\\' := by simpa [Platform.isSeparator] using hSeparator
  rcases hMark with rfl | rfl <;> exact absurd hAlpha (by decide)

theorem takeWhile_isSeparator_eq_nil_iff :
    text.takeWhile platform.isSeparator = [] ↔ ¬BeginsWithSeparator platform text := by
  cases text with
  | nil => simp [BeginsWithSeparator]
  | cons c rest => simp [BeginsWithSeparator, List.takeWhile_cons]

/-- A path is relative if and only if it does not begin with a separator. -/
theorem rootOf_eq_relative_iff :
    rootOf platform (text.takeWhile platform.isSeparator).length = .relative ↔
      ¬BeginsWithSeparator platform text := by
  have hRoot (leading : Nat) : rootOf platform leading = .relative ↔ leading = 0 := by
    unfold rootOf
    split <;> simp_all
  rw [hRoot, List.length_eq_zero_iff, takeWhile_isSeparator_eq_nil_iff]

/-- A path with a drive and a root that its platform has, in which nothing is left to simplify. -/
structure IsNormal (platform : Platform) (path : ProgramPath) : Prop where
  drive : path.drive = [] ∨
    platform = .windows ∧ ∃ letter, letter.isAlpha = true ∧ path.drive = [letter, ':']
  root : path.root = .double → platform = .windows
  parts : IsReduced platform path.root path.parts.reverse

/-- What is read and simplified is normal: the invariant of the stack, over all components. -/
theorem isNormal_simplify (platform : Platform) (text : List Char) :
    IsNormal platform (read platform text).simplify where
  drive := by
    by_cases hDrive : platform = .windows ∧ BeginsWithDrive text
    · obtain ⟨rfl, letter, rest, hAlpha, rfl⟩ := hDrive
      simp only [simplify, read, splitDrive_of_beginsWithDrive hAlpha]
      exact Or.inr ⟨trivial, letter, hAlpha, rfl⟩
    · simp only [simplify, read, splitDrive_of_not_beginsWithDrive (not_and.1 hDrive)]
      exact Or.inl trivial
  root := by
    simp only [simplify, read, rootOf]
    split <;> simp
  parts := by
    simp only [simplify, read, List.reverse_reverse]
    exact (IsReduced.nil platform _).foldl_push fun _ hPiece => eq_false_of_mem_splitOnP hPiece

end Reading

/-- The text of a path after its drive. -/
def body (platform : Platform) (path : ProgramPath) : List Char :=
  rootText platform path.root ++ [platform.separator].intercalate path.parts

theorem render_eq (platform : Platform) (path : ProgramPath) :
    render platform path = path.drive ++ body platform path :=
  List.append_assoc _ _ _

/-- A path that has no drive is not written as if it had one. -/
def IsDriveSafe (platform : Platform) (path : ProgramPath) : Prop :=
  platform = .windows → path.drive = [] → ¬BeginsWithDrive (render platform path)

namespace IsNormal

variable {platform : Platform} {path : ProgramPath}

theorem whole (h : IsNormal platform path) :
    ∀ part ∈ path.parts, ∀ c ∈ part, platform.isSeparator c = false :=
  fun part hPart => h.parts.whole part (List.mem_reverse.2 hPart)

/-- The joined components of a normal path cannot be taken for a root. -/
theorem not_beginsWithSeparator_intercalate (h : IsNormal platform path) :
    ¬BeginsWithSeparator platform ([platform.separator].intercalate path.parts) := by
  have hParts := h.whole
  cases hEq : path.parts with
  | nil => simp [BeginsWithSeparator]
  | cons part rest =>
      have hPart : part ∈ path.parts := hEq ▸ List.mem_cons_self
      cases part with
      | nil => exact absurd (h.parts.simple [] (List.mem_reverse.2 hPart)).1 (by decide)
      | cons c others =>
          have hSeparator := hParts _ hPart c List.mem_cons_self
          cases rest <;> simp [BeginsWithSeparator, hSeparator]

/-- The root that stands before the components is the one that is read there. -/
theorem rootOf_body (h : IsNormal platform path) :
    rootOf platform ((body platform path).takeWhile platform.isSeparator).length = path.root := by
  have hRest : ([platform.separator].intercalate path.parts).takeWhile platform.isSeparator = [] :=
    takeWhile_isSeparator_eq_nil_iff.2 h.not_beginsWithSeparator_intercalate
  have hRoot : ∀ c ∈ rootText platform path.root, platform.isSeparator c = true := by
    cases path.root <;> simp [rootText, platform.isSeparator_separator]
  rw [body, List.takeWhile_append_of_pos hRoot, hRest, List.append_nil]
  cases hKind : path.root with
  | relative => cases platform <;> rfl
  | single => cases platform <;> rfl
  | double =>
      obtain rfl := h.root hKind
      rfl

/-- Cutting the body of a normal path gives its components, and empty pieces, which a step that
ignores them does not see. -/
theorem foldl_splitOnP_body (h : IsNormal platform path) {α : Type} {step : α → List Char → α}
    (hStep : ∀ state, step state [] = state) (state : α) :
    ((body platform path).splitOnP platform.isSeparator).foldl step state =
      path.parts.foldl step state := by
  have hMark := platform.isSeparator_separator
  have hCons (rest : List Char) : (platform.separator :: rest).splitOnP platform.isSeparator =
      [] :: rest.splitOnP platform.isSeparator := by
    rw [List.splitOnP_cons_eq_if_modifyHead, if_pos hMark]
  have hParts := foldl_splitOnP_intercalate hStep hMark h.whole state
  rw [body]
  cases path.root with
  | relative => exact hParts
  | single =>
      rw [rootText, List.singleton_append, hCons, List.foldl_cons, hStep, hParts]
  | double =>
      rw [rootText, List.cons_append, List.singleton_append, hCons, hCons, List.foldl_cons,
        List.foldl_cons, hStep, hStep, hParts]

/-- The drive of a simplified path is read again. -/
theorem splitDrive_render (h : IsNormal platform path) (hSafe : IsDriveSafe platform path) :
    splitDrive platform (render platform path) = (path.drive, body platform path) := by
  rcases h.drive with hNone | ⟨rfl, letter, hAlpha, hLetter⟩
  · rw [splitDrive_of_not_beginsWithDrive fun hWindows => hSafe hWindows hNone, render_eq, hNone,
      List.nil_append]
  · rw [render_eq, hLetter]
    exact splitDrive_of_beginsWithDrive hAlpha _

/-- A normal path is read back as it was written, up to the pieces that separators leave. -/
theorem read_render (h : IsNormal platform path) (hSafe : IsDriveSafe platform path) :
    read platform (render platform path) =
      ⟨path.drive, path.root, (body platform path).splitOnP platform.isSeparator⟩ := by
  simp only [read, h.splitDrive_render hSafe, h.rootOf_body]

/-- A simplified path is what its own text is read and simplified to. -/
theorem simplify_read_render (h : IsNormal platform path) (hSafe : IsDriveSafe platform path) :
    (read platform (render platform path)).simplify = path := by
  have hEmpty (stack : List (List Char)) : push path.root stack [] = stack := rfl
  have hKept : path.parts.foldl (push path.root) [] = path.parts.reverse := by
    have hParts : IsReduced platform path.root (path.parts.reverse ++ []) := by
      simpa using h.parts
    simpa using hParts.foldl_push_eq
  rw [h.read_render hSafe, simplify, h.foldl_splitOnP_body hEmpty, hKept, List.reverse_reverse]

end IsNormal

end ProgramPath

open ToolGate.Path ProgramPath

/-- A relative path without a drive whose simplified text begins with a name that looks like a
drive. -/
def TurnsIntoDrive (text : List Char) : Prop :=
  ¬BeginsWithDrive text ∧ ¬BeginsWithSeparator .windows text ∧
    BeginsWithDrive (normalText .windows text)

section NormalText

variable {platform : Platform} {text : List Char}

/-- A text without separators is a name and is left alone. -/
theorem normalText_of_any_eq_false (h : text.any platform.isSeparator = false) :
    normalText platform text = text := by
  simp [normalText, h]

/-- The simplified path is written as it is, unless nothing of it is left. -/
theorem normalText_of_any (h : text.any platform.isSeparator = true) :
    let simplified := (read platform text).simplify.render platform
    normalText platform text = simplified ∨ normalText platform text = ['.'] ∧ simplified = [] := by
  intro simplified
  rw [normalText, if_pos h]
  split
  · exact Or.inr ⟨rfl, ‹_›⟩
  · exact Or.inl rfl

/-- A first name that looks like a drive has either been the first one already, or it has become
the first one. -/
theorem isDriveSafe_simplify (hTurns : platform = .windows → ¬TurnsIntoDrive text)
    (hText : normalText platform text = (read platform text).simplify.render platform) :
    IsDriveSafe platform (read platform text).simplify := by
  rintro rfl hDrive hBegins
  have hNone : ¬BeginsWithDrive text := by
    rintro ⟨letter, rest, hAlpha, rfl⟩
    simp [simplify, ProgramPath.read, splitDrive_of_beginsWithDrive hAlpha] at hDrive
  -- The text that begins with a letter is all that stands after the drive, so there is no root.
  have hRoot : (read .windows text).simplify.root = .relative := by
    rw [← (isNormal_simplify .windows text).rootOf_body, rootOf_eq_relative_iff]
    rw [render_eq, hDrive, List.nil_append] at hBegins
    exact hBegins.not_beginsWithSeparator
  simp only [simplify, ProgramPath.read, splitDrive_of_not_beginsWithDrive fun _ => hNone,
    rootOf_eq_relative_iff] at hRoot
  exact hTurns rfl ⟨hNone, hRoot, hText ▸ hBegins⟩

/-- A simplified text is left alone. -/
theorem normalText_normalText (hTurns : platform = .windows → ¬TurnsIntoDrive text) :
    normalText platform (normalText platform text) = normalText platform text := by
  cases hText : text.any platform.isSeparator with
  | false => rw [normalText_of_any_eq_false hText, normalText_of_any_eq_false hText]
  | true =>
      rcases normalText_of_any hText with hNormal | ⟨hDot, -⟩
      · have hAgain := (isNormal_simplify platform text).simplify_read_render
          (isDriveSafe_simplify hTurns hNormal)
        rw [hNormal]
        cases hRender : ((read platform text).simplify.render platform).any
            platform.isSeparator with
        | false => exact normalText_of_any_eq_false hRender
        | true =>
            have hTwice := normalText_of_any hRender
            rw [hAgain] at hTwice
            rcases hTwice with hSame | ⟨-, hNil⟩
            · exact hSame
            · simp [hNil] at hRender
      · rw [hDot]
        cases platform <;> rfl

end NormalText

/-- How a simplified path is written: a drive, a root, and components with single separators between
them. -/
structure IsNormalForm (platform : Platform) (drive root : List Char) (parts : List (List Char)) :
    Prop where
  drive_form : drive = [] ∨ platform = .windows ∧
    ∃ letter, letter.isAlpha = true ∧ drive = [letter, ':']
  root_form : root = [] ∨ root = [platform.separator] ∨
    platform = .windows ∧ root = [platform.separator, platform.separator]
  parts_form : ∀ part ∈ parts, part ≠ [] ∧ part ≠ ['.'] ∧ ∀ c ∈ part, platform.isSeparator c = false
  /-- `..` comes before all names. -/
  leading : ∃ ups names, parts = List.replicate ups ['.', '.'] ++ names ∧ ['.', '.'] ∉ names
  rootless : ['.', '.'] ∈ parts → root = []

/-- A normal path is written in the normal form. -/
theorem ProgramPath.IsNormal.isNormalForm {platform : Platform} {path : ProgramPath}
    (h : IsNormal platform path) :
    IsNormalForm platform path.drive (rootText platform path.root) path.parts where
  drive_form := h.drive
  root_form := by
    cases hRoot : path.root with
    | relative => exact Or.inl rfl
    | single => exact Or.inr (Or.inl rfl)
    | double => exact Or.inr (Or.inr ⟨h.root hRoot, rfl⟩)
  parts_form part hPart := by
    have hIdle := (h.parts.simple part (List.mem_reverse.2 hPart)).1
    have hStep : ¬(part = [] ∨ part = ['.']) := by simp [← isIdle_iff, hIdle]
    exact ⟨(not_or.1 hStep).1, (not_or.1 hStep).2, h.whole part hPart⟩
  leading := by simpa using h.parts.exists_reverse_eq
  rootless hParent := by
    rw [(h.parts.simple _ (List.mem_reverse.2 hParent)).2.2 rfl]
    rfl

/-- No separator is written but the platform's own. -/
theorem IsNormalForm.slash_not_mem {drive root : List Char} {parts : List (List Char)}
    (h : IsNormalForm .windows drive root parts) :
    '/' ∉ drive ++ root ++ [Platform.windows.separator].intercalate parts := by
  have hDrive : '/' ∉ drive := by
    rcases h.drive_form with rfl | ⟨-, letter, hAlpha, rfl⟩
    · exact List.not_mem_nil
    · have hLetter : '/' ≠ letter := by
        rintro rfl
        exact absurd hAlpha (by decide)
      simp [hLetter]
  have hRoot : '/' ∉ root := by
    rcases h.root_form with rfl | rfl | ⟨-, rfl⟩ <;> simp [Platform.separator]
  have hMark : Platform.windows.separator ≠ '/' := by decide
  have hParts : '/' ∉ [Platform.windows.separator].intercalate parts :=
    slash_not_mem_intercalate hMark fun part hPart =>
      slash_not_mem_of_whole (h.parts_form part hPart).2.2
  simp [hDrive, hRoot, hParts]

/-- A program that is written with a separator is simplified to `.` or to a text in normal form, in
which no slash is left on Windows. So the simplified program is left alone by a second run on either
platform, unless it is a relative path without a drive that has turned into one with a drive, which
can happen. -/
theorem normalizeProgram_normalForm :
    (∀ platform (program : String), (∃ c ∈ program.toList, platform.isSeparator c = true) →
      let text := (normalizeProgram platform program).toList
      (text = ['.'] ∨ ∃ drive root parts, IsNormalForm platform drive root parts ∧
        text = drive ++ root ++ [platform.separator].intercalate parts) ∧
      (platform = .windows → '/' ∉ text)) ∧
    (∀ program, normalizeProgram .posix (normalizeProgram .posix program) =
      normalizeProgram .posix program) ∧
    (∀ program, ¬TurnsIntoDrive program.toList →
      normalizeProgram .windows (normalizeProgram .windows program) =
        normalizeProgram .windows program) ∧
    normalizeProgram .windows "./C:./y" = "C:.\\y" ∧
    normalizeProgram .windows "C:.\\y" = "C:y" := by
  have hTwice (platform : Platform) (program : String)
      (h : platform = .windows → ¬TurnsIntoDrive program.toList) :
      normalizeProgram platform (normalizeProgram platform program) =
        normalizeProgram platform program := by
    rw [← String.toList_inj, toList_normalizeProgram, toList_normalizeProgram,
      normalText_normalText h]
  refine ⟨?_, ?_, ?_, by decide, by decide⟩
  · intro platform program hSeparator text
    have hForm := (isNormal_simplify platform program.toList).isNormalForm
    have hText : text = normalText platform program.toList := toList_normalizeProgram _ _
    rcases normalText_of_any (List.any_eq_true.2 hSeparator) with hNormal | ⟨hDot, -⟩
    · rw [hText, hNormal]
      refine ⟨Or.inr ⟨_, _, _, hForm, rfl⟩, ?_⟩
      rintro rfl
      exact hForm.slash_not_mem
    · rw [hText, hDot]
      exact ⟨Or.inl rfl, fun _ => by decide⟩
  · exact fun program => hTwice .posix program nofun
  · exact fun program h => hTwice .windows program fun _ => h

/-- Both separators, a drive, and `..` that nothing is left to take away from. -/
theorem normalizeProgram_normalForm_drive :
    let program := "C:..//tools\\.\\..\\../lint\\"
    (normalizeProgram .windows program = "C:..\\..\\lint") ∧
    (∃ c ∈ program.toList, Platform.windows.isSeparator c = true) ∧
    ¬TurnsIntoDrive program.toList ∧
    '/' ∉ (normalizeProgram .windows program).toList ∧
    normalizeProgram .windows (normalizeProgram .windows program) =
      normalizeProgram .windows program := by
  intro program
  have hSeparator : ∃ c ∈ program.toList, Platform.windows.isSeparator c = true :=
    ⟨'/', by decide, rfl⟩
  have hTurns : ¬TurnsIntoDrive program.toList :=
    fun h => h.1 ⟨'C', program.toList.drop 2, rfl, by decide⟩
  obtain ⟨hForm, -, hTwice, -⟩ := normalizeProgram_normalForm
  exact ⟨by decide, hSeparator, hTurns, (hForm .windows program hSeparator).2 rfl,
    hTwice program hTurns⟩

end ToolGate
