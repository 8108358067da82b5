import Mathlib.Data.List.Chain
import Mathlib.Data.List.TakeWhile
import ToolGate.Proofs.Program.Locating

/-! The ancestors of a path. Each of them has one component less than the one before it, the last
one, and the way up ends where no component can be taken away: at the root for an absolute path and
at the empty path for a relative one. -/
namespace ToolGate.Path

/-- The pieces of a text that name steps. -/
def steps (path : List Char) : List (List Char) :=
  (path.splitOnP (· == '/')).filter (!isIdle ·)

theorem steps_append_slash (first second : List Char) :
    steps (first ++ '/' :: second) = steps first ++ steps second := by
  rw [steps, List.splitOnP_append_cons first second (by rfl), List.filter_append]
  rfl

theorem steps_cons_slash (path : List Char) : steps ('/' :: path) = steps path :=
  steps_append_slash [] path

/-- The steps of a joined text are those among its parts, also if there are none. -/
theorem steps_intercalate {parts : List (List Char)} (h : ∀ part ∈ parts, '/' ∉ part) :
    steps (['/'].intercalate parts) = parts.filter (!isIdle ·) := by
  by_cases hParts : parts = []
  · subst hParts
    rfl
  · rw [steps, splitOnP_intercalate rfl (forall_ne_slash h) hParts]

/-- The head of a path as a component, if there is one. -/
def leading (path : List Char) : List (List Char) :=
  if (head path).isEmpty then [] else [head path]

/-- The head is no step, so that the steps can be read off the whole path. -/
theorem components_eq (path : List Char) : components path = leading path ++ steps path := by
  have hSteps : (pieces path).filter (!isIdle ·) = steps path := by
    unfold pieces head
    split
    · exact (steps_cons_slash _).symm
    · rfl
    · exact steps_append_slash [] _
    · rfl
  rw [components, hSteps, leading]

/-- What follows a slash has no part in the head, unless the path begins with the slash. -/
theorem head_append_slash {first : List Char} (h : first ≠ []) (second : List Char) :
    head (first ++ '/' :: second) = head first := by
  obtain ⟨c, rest, rfl⟩ := List.exists_cons_of_ne_nil h
  by_cases hSlash : c = '/'
  · simp [hSlash, head]
  by_cases hDot : c = '.'
  · subst hDot
    rcases rest with _ | ⟨d, rest⟩
    · rfl
    · by_cases hNext : d = '/' <;> simp [hNext, head]
  · simp [hSlash, hDot, head]

/-- Only the empty path has no components. -/
theorem eq_nil_of_components_eq_nil {path : List Char} (h : components path = []) : path = [] := by
  rw [components_eq, List.append_eq_nil_iff] at h
  obtain ⟨hHead, hSteps⟩ := h
  -- A path without steps begins with a piece that is none, and such a piece makes a head.
  have hIdle {piece : List Char} (hPiece : '/' ∉ piece) (hNone : steps piece = []) :
      piece = [] ∨ piece = ['.'] := by
    rw [steps, splitOnP_of_slash_not_mem hPiece] at hNone
    exact isIdle_iff.1 (by simpa using hNone)
  by_cases hSlash : '/' ∈ path
  · obtain ⟨before, after, rfl, hBefore⟩ := List.eq_append_cons_of_mem hSlash
    rw [steps_append_slash, List.append_eq_nil_iff] at hSteps
    rcases hIdle hBefore hSteps.1 with rfl | rfl <;> simp [leading, head] at hHead
  · rcases hIdle hSlash hSteps with rfl | rfl
    · rfl
    · simp [leading, head] at hHead

theorem head_append_body (path : List Char) : head path ++ path.drop (head path).length = path := by
  unfold head
  split <;> rfl

theorem head_eq (path : List Char) : head path = [] ∨ head path = ['/'] ∨ head path = ['.'] := by
  unfold head
  split <;> simp

theorem head_head (path : List Char) : head (head path) = head path := by
  rcases head_eq path with h | h | h <;> rw [h] <;> rfl

theorem isAbsolute_iff_head {path : List Char} : isAbsolute path = true ↔ head path = ['/'] := by
  constructor
  · intro h
    obtain ⟨rest, rfl⟩ := isAbsolute_iff.1 h
    rfl
  · intro h
    rw [← head_append_body path, h]
    rfl

/-- Joining two lists of pieces puts one slash between them. -/
theorem intercalate_append_slash {first second : List (List Char)} (hFirst : first ≠ [])
    (hSecond : second ≠ []) :
    ['/'].intercalate (first ++ second) =
      ['/'].intercalate first ++ '/' :: ['/'].intercalate second := by
  induction first with
  | nil => exact absurd rfl hFirst
  | cons part rest ih =>
      by_cases hRest : rest = []
      · subst hRest
        simp [List.intercalate_cons_of_ne_nil hSecond]
      · rw [List.cons_append, List.intercalate_cons_of_ne_nil (by simp [hRest]), ih hRest,
          List.intercalate_cons_of_ne_nil hRest]
        simp

/-- A path that is cut off before one of its pieces keeps its head. -/
theorem head_cut {path : List Char} {kept cut : List (List Char)} (h : pieces path = kept ++ cut) :
    head (head path ++ ['/'].intercalate kept) = head path := by
  by_cases hKept : kept = []
  · subst hKept
    simpa using head_head path
  have hBody : ['/'].intercalate (kept ++ cut) = path.drop (head path).length :=
    h ▸ List.intercalate_splitOn '/'
  by_cases hCut : cut = []
  · rw [hCut, List.append_nil] at hBody
    rw [hBody, head_append_body]
  · rw [intercalate_append_slash hKept hCut] at hBody
    have hPath : (head path ++ ['/'].intercalate kept) ++ '/' :: ['/'].intercalate cut = path := by
      rw [List.append_assoc, hBody, head_append_body]
    by_cases hEmpty : head path ++ ['/'].intercalate kept = []
    · rw [hEmpty]
      exact (List.append_eq_nil_iff.1 hEmpty).1.symm
    · rw [← head_append_slash hEmpty (['/'].intercalate cut), hPath]

/-- Cutting pieces off the end takes their steps away, and the head stays. -/
theorem components_cut {path : List Char} {kept cut : List (List Char)}
    (h : pieces path = kept ++ cut) :
    components (head path ++ ['/'].intercalate kept) =
      leading path ++ kept.filter (!isIdle ·) := by
  have hSlash : ∀ part ∈ kept, '/' ∉ part := by
    intro part hPart
    have hPiece : part ∈ pieces path := h ▸ List.mem_append_left cut hPart
    exact slash_not_mem_of_mem_splitOnP hPiece
  rw [components, pieces, head_cut h, List.drop_left, ← steps_intercalate hSlash]
  rfl

theorem filter_dropWhile_isIdle (parts : List (List Char)) :
    (parts.dropWhile isIdle).filter (!isIdle ·) = parts.filter (!isIdle ·) := by
  induction parts with
  | nil => rfl
  | cons part rest ih => cases h : isIdle part <;> simp [h, ih]

/-- What is left of a path with these pieces. They come in reverse order, and idle ones at the end
are dropped. -/
def upTo (path : List Char) (reversed : List (List Char)) : List Char :=
  head path ++ ['/'].intercalate (reversed.dropWhile isIdle).reverse

section Ancestors

variable {path : List Char} {reversed cut : List (List Char)}

theorem components_upTo (h : pieces path = reversed.reverse ++ cut) :
    components (upTo path reversed) = leading path ++ reversed.reverse.filter (!isIdle ·) := by
  have hCut : pieces path = (reversed.dropWhile isIdle).reverse ++
      ((reversed.takeWhile isIdle).reverse ++ cut) := by
    rw [h, ← List.append_assoc, ← List.reverse_append, List.takeWhile_append_dropWhile]
  rw [upTo, components_cut hCut, List.filter_reverse, filter_dropWhile_isIdle,
    ← List.filter_reverse]

/-- An idle piece is no ancestor of its own. -/
theorem ancestorsFrom_idle {piece : List Char} (h : isIdle piece = true) :
    ancestorsFrom (head path) (piece :: reversed) = ancestorsFrom (head path) reversed := by
  simp [ancestorsFrom, h]

/-- Each step that is cut off gives one ancestor. -/
theorem ancestorsFrom_step {piece : List Char} (h : isIdle piece = false) :
    ancestorsFrom (head path) (piece :: reversed) =
      upTo path reversed :: ancestorsFrom (head path) reversed := by
  simp [ancestorsFrom, h, upTo]

/-- Where the ancestors of a path end: at the root for an absolute path, at the empty path for a
relative one. -/
def outermost (path : List Char) : List Char :=
  if isAbsolute path then ['/'] else []

theorem outermost_of_isAbsolute (h : isAbsolute path = true) : outermost path = ['/'] := by
  simp [outermost, h]

theorem outermost_of_not_isAbsolute (h : isAbsolute path = false) : outermost path = [] := by
  simp [outermost, h]

theorem leading_of_isAbsolute (h : isAbsolute path = true) : leading path = [['/']] := by
  simp [leading, isAbsolute_iff_head.1 h]

/-- The head of a path names its outermost one, unless it is a dot. -/
theorem leading_eq (h : head path ≠ ['.']) : leading path = components (outermost path) := by
  cases hRooted : isAbsolute path with
  | true =>
      rw [leading_of_isAbsolute hRooted, outermost_of_isAbsolute hRooted]
      rfl
  | false =>
      have hHead : head path = [] := by
        rcases head_eq path with hHead | hHead | hHead
        · exact hHead
        · simp [isAbsolute_iff_head.2 hHead] at hRooted
        · exact absurd hHead h
      rw [leading, hHead, outermost_of_not_isAbsolute hRooted]
      rfl

/-- Nothing is left of the pieces where no component is left but those of the outermost path. -/
theorem upTo_eq_outermost (h : pieces path = reversed.reverse ++ cut)
    (hOutermost : components (upTo path reversed) = components (outermost path)) :
    upTo path reversed = outermost path := by
  cases hRooted : isAbsolute path with
  | false =>
      rw [outermost_of_not_isAbsolute hRooted] at hOutermost ⊢
      exact eq_nil_of_components_eq_nil hOutermost
  | true =>
      rw [outermost_of_isAbsolute hRooted, components_upTo h, leading_of_isAbsolute hRooted]
        at hOutermost
      have hNone : reversed.reverse.filter (!isIdle ·) = [] :=
        List.append_cancel_left (hOutermost.trans (by rfl))
      have hIdle : reversed.dropWhile isIdle = [] := by
        rw [List.dropWhile_eq_nil_iff]
        simpa using hNone
      rw [upTo, hIdle, outermost_of_isAbsolute hRooted, isAbsolute_iff_head.1 hRooted]
      rfl

/-- A way up from a path: one component is taken off at each step, until those of the goal are left.
A path that is not the beginning and has the components of the goal is written as the goal is. -/
inductive WayUp (goal : List Char) : List Char → List (List Char) → Prop where
  | arrived {directory : List Char} (h : components directory = components goal) :
      WayUp goal directory []
  | step {directory parent : List Char} {above : List (List Char)} {component : List Char}
      (hParent : components directory = components parent ++ [component])
      (hGoal : components parent = components goal → parent = goal)
      (hAbove : WayUp goal parent above) : WayUp goal directory (parent :: above)

/-- Cutting off pieces leads up, also from another path with the same components. -/
theorem wayUp_ancestorsFrom (h : pieces path = reversed.reverse ++ cut) {first : List Char}
    (hFirst : components first = leading path ++ reversed.reverse.filter (!isIdle ·)) :
    WayUp (outermost path) first (ancestorsFrom (head path) reversed) := by
  induction reversed generalizing cut first with
  | nil =>
      rw [List.reverse_nil, List.filter_nil, List.append_nil] at hFirst
      by_cases hDot : head path = ['.']
      -- The dot is a component, but it comes off without a piece.
      · have hRelative : isAbsolute path = false := by
          rw [← Bool.not_eq_true, isAbsolute_iff_head, hDot]
          decide
        have hParent : components first = components [] ++ [['.']] := by
          simp only [hFirst, leading, hDot]
          rfl
        rw [ancestorsFrom, if_pos hDot, outermost_of_not_isAbsolute hRelative]
        exact .step hParent (fun _ => rfl) (.arrived rfl)
      · rw [ancestorsFrom, if_neg hDot]
        exact .arrived (hFirst.trans (leading_eq hDot))
  | cons piece before ih =>
      rw [List.reverse_cons, List.append_assoc] at h
      cases hIdle : isIdle piece with
      | true =>
          rw [ancestorsFrom_idle hIdle]
          exact ih h (by simpa [hIdle] using hFirst)
      | false =>
          have hParent : components first = components (upTo path before) ++ [piece] := by
            rw [components_upTo h, hFirst]
            simp [hIdle]
          rw [ancestorsFrom_step hIdle]
          exact .step hParent (upTo_eq_outermost h) (ih h (components_upTo h))

end Ancestors

namespace WayUp

variable {goal directory : List Char} {above : List (List Char)}

/-- On a way up each directory has one component less than the one below it. -/
theorem isChain (h : WayUp goal directory above) : (directory :: above).IsChain fun lower upper =>
    ∃ component, components lower = components upper ++ [component] := by
  induction h with
  | arrived => exact List.isChain_singleton _
  | step hParent _ _ ih => exact List.isChain_cons_cons.2 ⟨⟨_, hParent⟩, ih⟩

/-- A way up ends at its goal. -/
theorem getLast? (h : WayUp goal directory above) :
    ∃ top, (directory :: above).getLast? = some top ∧ components top = components goal ∧
      (top = directory ∨ top = goal) := by
  induction h with
  | arrived h => exact ⟨_, rfl, h, Or.inl rfl⟩
  | step _ hGoal _ ih =>
      obtain ⟨top, hTop, hComponents, hText⟩ := ih
      refine ⟨top, by rw [List.getLast?_cons_cons, hTop], hComponents, Or.inr ?_⟩
      rcases hText with rfl | rfl
      · exact hGoal hComponents
      · rfl

end WayUp

section Chain

variable (path : String)

theorem ancestors_eq_map : ancestors path =
    (path.toList :: ancestorsFrom (head path.toList) (pieces path.toList).reverse).map
      String.ofList := by
  simp [ancestors]

/-- The ancestors of a path are a way up to where its ancestors end. -/
theorem wayUp_ancestors : WayUp (outermost path.toList) path.toList
    (ancestorsFrom (head path.toList) (pieces path.toList).reverse) := by
  have hPieces : pieces path.toList = (pieces path.toList).reverse.reverse ++ [] := by simp
  refine wayUp_ancestorsFrom hPieces ?_
  rw [List.reverse_reverse]
  rfl

/-- Each ancestor is the one before it without its last component. -/
theorem isChain_ancestors : (ancestors path).IsChain fun directory parent =>
    ∃ component, components directory.toList = components parent.toList ++ [component] := by
  rw [ancestors_eq_map, List.isChain_map]
  simpa using (wayUp_ancestors path).isChain

/-- The last ancestor of an absolute path is the root. It is written as a single slash, unless the
path itself is a longer name of the root. -/
theorem getLast?_ancestors_of_isAbsolute (h : isAbsolute path.toList = true) :
    ∃ root, (ancestors path).getLast? = some root ∧ components root.toList = [['/']] ∧
      (root = path ∨ root = "/") := by
  obtain ⟨top, hTop, hComponents, hText⟩ := (wayUp_ancestors path).getLast?
  rw [outermost_of_isAbsolute h] at hComponents hText
  refine ⟨String.ofList top, ?_, ?_, ?_⟩
  · rw [ancestors_eq_map, List.getLast?_map, hTop]
    rfl
  · rw [String.toList_ofList, hComponents]
    rfl
  · rcases hText with rfl | rfl
    · exact Or.inl String.ofList_toList
    · exact Or.inr rfl

/-- The last ancestor of a relative path is the empty path. -/
theorem getLast?_ancestors_of_not_isAbsolute (h : isAbsolute path.toList = false) :
    (ancestors path).getLast? = some "" := by
  obtain ⟨top, hTop, hComponents, -⟩ := (wayUp_ancestors path).getLast?
  rw [outermost_of_not_isAbsolute h] at hComponents
  obtain rfl := eq_nil_of_components_eq_nil hComponents
  rw [ancestors_eq_map, List.getLast?_map, hTop]
  rfl

end Chain

end ToolGate.Path
