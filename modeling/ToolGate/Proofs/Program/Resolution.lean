import ToolGate.Path
import ToolGate.Program.Normal

/-! Where a path leads when only its text counts, as in a tree without links, and what is left of a
path when it is simplified. The stack of components leads at every step to where the components that
have been read lead. -/
namespace ToolGate

namespace Path

/-- A place in a tree without links: the names on the way from its root. -/
abbrev Location : Type := List (List Char)

/-- One step of a path. There is nothing above the root. -/
def follow (place : Location) (piece : List Char) : Location :=
  if isIdle piece then place
  else if piece = ['.', '.'] then place.dropLast
  else place ++ [piece]

/-- Where a path leads, as seen from a base. -/
def resolve (base : Location) (path : List Char) : Location :=
  (path.splitOnP (· == '/')).foldl follow (if isAbsolute path then [] else base)

theorem isAbsolute_iff {path : List Char} :
    isAbsolute path = true ↔ ∃ rest, path = '/' :: rest := by
  cases path <;> simp [isAbsolute]

theorem slash_mem_of_isAbsolute {path : List Char} (h : isAbsolute path = true) : '/' ∈ path := by
  obtain ⟨rest, rfl⟩ := isAbsolute_iff.1 h
  exact List.mem_cons_self

theorem isIdle_iff {piece : List Char} : isIdle piece = true ↔ piece = [] ∨ piece = ['.'] := by
  simp [isIdle]

theorem follow_idle {place : Location} {piece : List Char} (h : isIdle piece = true) :
    follow place piece = place := by
  simp [follow, h]

@[simp] theorem follow_parent (place : Location) : follow place ['.', '.'] = place.dropLast := rfl

theorem follow_name (place : Location) {piece : List Char} (hIdle : isIdle piece = false)
    (hParent : piece ≠ ['.', '.']) : follow place piece = place ++ [piece] := by
  simp [follow, hIdle, hParent]

/-- Without `..` every piece that is a step leads further down. -/
theorem foldl_follow_of_forall {place : Location} {pieces : List (List Char)}
    (h : ∀ piece ∈ pieces, piece ≠ ['.', '.']) :
    pieces.foldl follow place = place ++ pieces.filter (!isIdle ·) := by
  induction pieces generalizing place with
  | nil => simp
  | cons piece rest ih =>
      rw [List.forall_mem_cons] at h
      rw [List.foldl_cons, ih h.2]
      cases hIdle : isIdle piece with
      | true => simp [follow_idle hIdle, hIdle]
      | false => simp [follow_name place hIdle h.1, hIdle]

section Pieces

variable {path piece : List Char}

/-- Pieces are free of what a text was cut at. -/
theorem eq_false_of_mem_splitOnP {isCut : Char → Bool} (h : piece ∈ path.splitOnP isCut) :
    ∀ c ∈ piece, isCut c = false := by
  induction path generalizing piece with
  | nil => simp_all
  | cons c rest ih =>
      obtain ⟨first, others, hRest⟩ := List.exists_cons_of_ne_nil
        (List.splitOnP_ne_nil isCut rest)
      rw [List.splitOnP_cons_eq_if_modifyHead, hRest, List.modifyHead_cons] at h
      rw [hRest] at ih
      split at h
      · rcases List.mem_cons.1 h with rfl | h
        · exact List.forall_mem_nil _
        · exact ih h
      · rename_i hCut
        rcases List.mem_cons.1 h with rfl | h
        · exact List.forall_mem_cons.2 ⟨Bool.eq_false_iff.2 hCut, ih List.mem_cons_self⟩
        · exact ih (List.mem_cons_of_mem _ h)

theorem slash_not_mem_of_mem_splitOnP (h : piece ∈ path.splitOnP (· == '/')) : '/' ∉ piece :=
  fun hSlash => absurd (eq_false_of_mem_splitOnP h '/' hSlash) (by decide)

theorem splitOnP_of_slash_not_mem (h : '/' ∉ path) : path.splitOnP (· == '/') = [path] :=
  List.splitOnP_eq_singleton fun _ hc => beq_false_of_ne fun hSlash => h (hSlash ▸ hc)

theorem splitOnP_cons_slash (rest : List Char) :
    ('/' :: rest).splitOnP (· == '/') = [] :: rest.splitOnP (· == '/') :=
  List.splitOnP_cons_eq_if_modifyHead '/' rest

theorem two_le_length_splitOnP_iff : 2 ≤ (path.splitOnP (· == '/')).length ↔ '/' ∈ path := by
  by_cases hSlash : '/' ∈ path
  · refine iff_of_true ?_ hSlash
    obtain ⟨before, after, rfl⟩ := List.append_of_mem hSlash
    rw [List.splitOnP_append_cons before after (by rfl), List.length_append]
    have hBefore := List.length_pos_iff.2 (List.splitOnP_ne_nil (· == '/') before)
    have hAfter := List.length_pos_iff.2 (List.splitOnP_ne_nil (· == '/') after)
    omega
  · simp [splitOnP_of_slash_not_mem hSlash, hSlash]

variable {parts : List (List Char)}

/-- Joining with a mark that is cut at undoes the cut. -/
theorem splitOnP_intercalate {isCut : Char → Bool} {mark : Char} (hMark : isCut mark = true)
    (h : ∀ part ∈ parts, ∀ c ∈ part, isCut c = false) (hParts : parts ≠ []) :
    ([mark].intercalate parts).splitOnP isCut = parts := by
  induction parts with
  | nil => exact absurd rfl hParts
  | cons part rest ih =>
      rw [List.forall_mem_cons] at h
      cases rest with
      | nil => simpa using List.splitOnP_eq_singleton h.1
      | cons next others =>
          have hJoin : [mark].intercalate (part :: next :: others) =
              part ++ mark :: [mark].intercalate (next :: others) := by simp
          rw [hJoin, List.splitOnP_append_cons_of_forall_mem h.1 mark hMark,
            ih h.2 (List.cons_ne_nil _ _)]

/-- What is done piece by piece, with nothing done for an empty one, is done to a joined text as it
is done to the parts, also if there are none. -/
theorem foldl_splitOnP_intercalate {α : Type} {step : α → List Char → α}
    (hStep : ∀ state, step state [] = state) {isCut : Char → Bool} {mark : Char}
    (hMark : isCut mark = true) (h : ∀ part ∈ parts, ∀ c ∈ part, isCut c = false) (state : α) :
    (([mark].intercalate parts).splitOnP isCut).foldl step state = parts.foldl step state := by
  by_cases hParts : parts = []
  · subst hParts
    exact hStep state
  · rw [splitOnP_intercalate hMark h hParts]

theorem forall_ne_slash (h : ∀ part ∈ parts, '/' ∉ part) :
    ∀ part ∈ parts, ∀ c ∈ part, (c == '/') = false :=
  fun part hPart _ hc => beq_false_of_ne fun hSlash => h part hPart (hSlash ▸ hc)

end Pieces

/-- An absolute path leads to the same place from everywhere. -/
theorem resolve_of_isAbsolute {path : List Char} (h : isAbsolute path = true)
    (first second : Location) : resolve first path = resolve second path := by
  simp [resolve, h]

theorem resolve_of_not_isAbsolute {path : List Char} (h : isAbsolute path = false)
    (base : Location) : resolve base path = (path.splitOnP (· == '/')).foldl follow base := by
  simp [resolve, h]

/-- A slash between two paths does not change where either of them leads. -/
theorem resolve_append_slash {directory path : List Char} (hPath : isAbsolute path = false)
    (base : Location) :
    resolve base (directory ++ '/' :: path) = resolve (resolve base (directory ++ ['/'])) path := by
  have hHead : isAbsolute (directory ++ '/' :: path) = isAbsolute (directory ++ ['/']) := by
    cases directory <;> rfl
  rw [resolve_of_not_isAbsolute hPath, resolve, resolve, hHead,
    List.splitOnP_append_cons directory path (by rfl),
    List.splitOnP_append_cons directory [] (by rfl), List.foldl_append, List.foldl_append]
  rfl

/-- A slash at the end of a path leads nowhere, unless it is all of the path. -/
theorem resolve_concat_slash {path : List Char} (h : path ≠ []) (base : Location) :
    resolve base (path ++ ['/']) = resolve base path := by
  have hHead : isAbsolute (path ++ ['/']) = isAbsolute path := by
    cases path with
    | nil => exact absurd rfl h
    | cons c rest => rfl
  rw [resolve, resolve, hHead, List.splitOnP_append_cons path [] (by rfl), List.foldl_append]
  rfl

/-- A joined path leads from a base to where its second part leads from the place of the first. -/
theorem resolve_join (base : Location) (directory path : String) :
    resolve base (join directory path).toList =
      resolve (resolve base directory.toList) path.toList := by
  unfold join
  cases hPath : isAbsolute path.toList with
  | true => exact resolve_of_isAbsolute hPath _ _
  | false =>
      by_cases hEmpty : directory = ""
      · subst hEmpty
        rfl
      · have hDirectory : directory.toList ≠ [] := by simpa using hEmpty
        simp only [Bool.false_or, String.isEmpty_iff, hEmpty, if_false]
        split
        · rename_i hLast
          obtain ⟨before, hBefore⟩ := List.getLast?_eq_some_iff.1 hLast
          rw [String.toList_append, hBefore, List.append_assoc, List.singleton_append,
            resolve_append_slash hPath]
        · rw [String.toList_append, String.toList_append, List.append_assoc,
            show "/".toList = ['/'] from rfl, List.singleton_append, resolve_append_slash hPath,
            resolve_concat_slash hDirectory]

/-- A path that is nothing but steps with single slashes between them. -/
def IsTidy (path : List Char) : Prop :=
  ∀ piece ∈ path.splitOnP (· == '/'), isIdle piece = false

theorem isTidy_intercalate {parts : List (List Char)} (hParts : parts ≠ [])
    (hSlash : ∀ part ∈ parts, '/' ∉ part) (hIdle : ∀ part ∈ parts, isIdle part = false) :
    IsTidy (['/'].intercalate parts) := by
  rwa [IsTidy, splitOnP_intercalate rfl (forall_ne_slash hSlash) hParts]

namespace IsTidy

variable {path : List Char}

theorem ne_nil (h : IsTidy path) : path ≠ [] := by
  rintro rfl
  exact absurd (h [] (by simp)) (by decide)

theorem isAbsolute_eq_false (h : IsTidy path) : isAbsolute path = false := by
  rw [Bool.eq_false_iff]
  intro hAbsolute
  obtain ⟨rest, rfl⟩ := isAbsolute_iff.1 hAbsolute
  exact absurd (h [] (by simp [splitOnP_cons_slash])) (by decide)

end IsTidy

end Path

namespace ProgramPath

open ToolGate.Path

/-- What a stack of simplified components holds: names without a slash, and `..` only where there is
no root. -/
def IsSimple (root : RootKind) (stack : List (List Char)) : Prop :=
  ∀ part ∈ stack, isIdle part = false ∧ '/' ∉ part ∧ (part = ['.', '.'] → root = .relative)

section Push

variable {root : RootKind} {stack : List (List Char)} {part last : List Char} {start : Location}

theorem IsSimple.nil (root : RootKind) : IsSimple root [] := by
  simp [IsSimple]

/-- A stack is simple if its last component is a step that its root allows, and the rest is simple.
-/
theorem isSimple_cons : IsSimple root (last :: stack) ↔
    (isIdle last = false ∧ '/' ∉ last ∧ (last = ['.', '.'] → root = .relative)) ∧
      IsSimple root stack := by
  simp [IsSimple]

theorem push_idle (h : isIdle part = true) : push root stack part = stack := by
  simp [push, isIdle_iff.1 h]

theorem push_name (hIdle : isIdle part = false) (hParent : part ≠ ['.', '.']) :
    push root stack part = part :: stack := by
  have hStep : ¬(part = [] ∨ part = ['.']) := by simp [← isIdle_iff, hIdle]
  simp [push, hStep, hParent]

/-- `..` takes a name away. -/
theorem push_parent_name (h : last ≠ ['.', '.']) :
    push root (last :: stack) ['.', '.'] = stack := by
  simp [push, h]

/-- Where there is no name to take away, `..` stays if there is no root. -/
theorem push_parent_relative (h : ∀ name ∈ stack.head?, name = ['.', '.']) :
    push .relative stack ['.', '.'] = ['.', '.'] :: stack := by
  cases stack with
  | nil => rfl
  | cons last below => simp [push, h last rfl]

/-- Nothing is left to take away below a root. -/
theorem push_parent_root (h : root ≠ .relative) : push root [] ['.', '.'] = [] := by
  simp [push, h]

/-- The last component of a simple stack is a name to take away, or all that `..` can do is to
stay or to vanish at the root. -/
theorem IsSimple.parent_cases (h : IsSimple root stack) :
    (∃ last below, stack = last :: below ∧ last ≠ ['.', '.']) ∨
    (root = .relative ∧ ∀ name ∈ stack.head?, name = ['.', '.']) ∨
    (root ≠ .relative ∧ stack = []) := by
  cases stack with
  | nil => by_cases hRoot : root = .relative <;> simp [hRoot]
  | cons last below =>
      by_cases hLast : last = ['.', '.']
      · exact Or.inr (Or.inl ⟨((isSimple_cons.1 h).1).2.2 hLast, by simp [hLast]⟩)
      · exact Or.inl ⟨last, below, rfl, hLast⟩

/-- One more component keeps the stack simple. -/
theorem isSimple_push (hStack : IsSimple root stack) (hPart : '/' ∉ part) :
    IsSimple root (push root stack part) := by
  cases hIdle : isIdle part with
  | true => rwa [push_idle hIdle]
  | false =>
      by_cases hParent : part = ['.', '.']
      · subst hParent
        rcases hStack.parent_cases with ⟨last, below, rfl, hLast⟩ | ⟨rfl, hHead⟩ | ⟨hRoot, rfl⟩
        · rw [push_parent_name hLast]
          exact (isSimple_cons.1 hStack).2
        · rw [push_parent_relative hHead, isSimple_cons]
          exact ⟨⟨rfl, hPart, fun _ => rfl⟩, hStack⟩
        · rwa [push_parent_root hRoot]
      · rw [push_name hIdle hParent, isSimple_cons]
        exact ⟨⟨hIdle, hPart, fun h => absurd h hParent⟩, hStack⟩

/-- One component: the new stack leads to where the component leads from the place of the old one.
Below a root the start is the root itself, so that nothing can be left there either. -/
theorem foldl_follow_push (hStack : IsSimple root stack)
    (hStart : root ≠ .relative → start = []) (part : List Char) :
    (push root stack part).reverse.foldl follow start =
      follow (stack.reverse.foldl follow start) part := by
  cases hIdle : isIdle part with
  | true => rw [push_idle hIdle, follow_idle hIdle]
  | false =>
      by_cases hParent : part = ['.', '.']
      · subst hParent
        rcases hStack.parent_cases with ⟨last, below, rfl, hLast⟩ | ⟨rfl, hHead⟩ | ⟨hRoot, rfl⟩
        · have hStep := follow_name (below.reverse.foldl follow start)
            (isSimple_cons.1 hStack).1.1 hLast
          rw [push_parent_name hLast, List.reverse_cons, List.foldl_append, List.foldl_cons,
            List.foldl_nil, hStep, follow_parent, List.dropLast_concat]
        · rw [push_parent_relative hHead, List.reverse_cons, List.foldl_append]
          rfl
        · rw [push_parent_root hRoot, hStart hRoot]
          rfl
      · rw [push_name hIdle hParent, List.reverse_cons, List.foldl_append]
        rfl

variable {pieces : List (List Char)}

/-- The invariant of the whole run over the pieces of a path. -/
theorem isSimple_foldl_push (hPieces : ∀ piece ∈ pieces, '/' ∉ piece)
    (hStack : IsSimple root stack) : IsSimple root (pieces.foldl (push root) stack) := by
  induction pieces generalizing stack with
  | nil => exact hStack
  | cons piece rest ih =>
      rw [List.forall_mem_cons] at hPieces
      exact ih hPieces.2 (isSimple_push hStack hPieces.1)

/-- All components, by induction on those that have not been read yet. -/
theorem foldl_follow_foldl_push (hPieces : ∀ piece ∈ pieces, '/' ∉ piece)
    (hStack : IsSimple root stack) (hStart : root ≠ .relative → start = []) :
    (pieces.foldl (push root) stack).reverse.foldl follow start =
      pieces.foldl follow (stack.reverse.foldl follow start) := by
  induction pieces generalizing stack with
  | nil => rfl
  | cons piece rest ih =>
      rw [List.forall_mem_cons] at hPieces
      rw [List.foldl_cons, ih hPieces.2 (isSimple_push hStack hPieces.1),
        foldl_follow_push hStack hStart, List.foldl_cons]

end Push

/-- The components that are left of a path. -/
def simpleParts (text : List Char) : List (List Char) :=
  (read .posix text).simplify.parts

theorem read_posix (text : List Char) :
    read .posix text =
      { drive := []
        root := if isAbsolute text then .single else .relative
        parts := text.splitOnP (· == '/') } := by
  have hDrive : splitDrive .posix text = ([], text) := by
    unfold splitDrive
    split <;> simp_all
  have hRoot : rootOf .posix (text.takeWhile Platform.posix.isSeparator).length =
      if isAbsolute text then .single else .relative := by
    cases text with
    | nil => rfl
    | cons c rest =>
        by_cases hc : c = '/' <;> simp [hc, isAbsolute, Platform.isSeparator, rootOf]
  simp only [read, hDrive, hRoot]
  rfl

section SimpleParts

variable (text : List Char)

theorem simpleParts_eq : simpleParts text =
    ((text.splitOnP (· == '/')).foldl
      (push (if isAbsolute text then .single else .relative)) []).reverse := by
  rw [simpleParts, read_posix, simplify]

/-- The components that are left are steps, and only a relative path keeps a `..`. -/
theorem isSimple_simpleParts :
    IsSimple (if isAbsolute text then .single else .relative) (simpleParts text) := by
  intro part hPart
  rw [simpleParts_eq, List.mem_reverse] at hPart
  exact isSimple_foldl_push (fun _ h => slash_not_mem_of_mem_splitOnP h) (IsSimple.nil _) part hPart

theorem slash_not_mem_simpleParts : ∀ part ∈ simpleParts text, '/' ∉ part :=
  fun part hPart => (isSimple_simpleParts text part hPart).2.1

end SimpleParts

end ProgramPath

open ToolGate.Path ProgramPath

theorem toList_normalizeProgram (platform : Platform) (program : String) :
    (normalizeProgram platform program).toList = normalText platform program.toList := by
  simp [normalizeProgram]

variable {text : List Char}

/-- A name is left alone. -/
theorem normalText_of_slash_not_mem (h : '/' ∉ text) : normalText .posix text = text := by
  have hAny : text.any Platform.posix.isSeparator = false := by
    rw [List.any_eq_false]
    intro c hc hSlash
    exact h (beq_iff_eq.1 hSlash ▸ hc)
  simp [normalText, hAny]

/-- The simplified text is the joined components, after a slash for an absolute path, and a dot if
nothing else is left. -/
theorem normalText_of_slash_mem (h : '/' ∈ text) : normalText .posix text =
    if isAbsolute text then '/' :: ['/'].intercalate (simpleParts text)
    else if ['/'].intercalate (simpleParts text) = [] then ['.']
    else ['/'].intercalate (simpleParts text) := by
  have hAny : text.any Platform.posix.isSeparator = true := List.any_eq_true.2 ⟨'/', h, rfl⟩
  have hRender : (read .posix text).simplify.render .posix =
      (if isAbsolute text then ['/'] else []) ++ ['/'].intercalate (simpleParts text) := by
    rw [render, ← simpleParts, simplify, read_posix]
    cases isAbsolute text <;> rfl
  rw [normalText, if_pos hAny, hRender]
  cases isAbsolute text with
  | true => rfl
  | false => cases h : ['/'].intercalate (simpleParts text) <;> rfl

/-- A relative path is the current directory, or it ends up as steps and single slashes. -/
theorem normalText_relative (hRelative : isAbsolute text = false) (hText : text ≠ []) :
    normalText .posix text = ['.'] ∨ IsTidy (normalText .posix text) := by
  by_cases hSlash : '/' ∈ text
  · have hSimple := isSimple_simpleParts text
    rw [normalText_of_slash_mem hSlash, hRelative, if_neg Bool.false_ne_true]
    by_cases hParts : simpleParts text = []
    · exact Or.inl (by rw [hParts]; rfl)
    · have hTidy := isTidy_intercalate hParts (slash_not_mem_simpleParts text)
        fun part hPart => (hSimple part hPart).1
      rw [if_neg hTidy.ne_nil]
      exact Or.inr hTidy
  · rw [normalText_of_slash_not_mem hSlash]
    cases hIdle : isIdle text with
    | true => exact Or.inl ((isIdle_iff.1 hIdle).resolve_left hText)
    | false => exact Or.inr (by simpa [IsTidy, splitOnP_of_slash_not_mem hSlash] using hIdle)

end ToolGate
