import ToolGate.Palette

/-! Taking the colours out of a text again. The codes are deleted in one pass from left to right.
Since a code holds the escape character at its beginning only, what a text ends with cannot become
part of a code that is put after it. -/
namespace ToolGate

namespace Color

/-- All colours. -/
def all : List Color := [.reset, .red, .green, .cyan]

/-- The colour whose code stands at the beginning of a text. -/
def at? (text : List Char) : Option Color :=
  all.find? fun color => color.code.toList.isPrefixOf text

/-- What is left of a text without the codes. After a deleted code, the pass goes on with what
follows the code. -/
def erased (text : List Char) : List Char :=
  match text with
  | [] => []
  | c :: rest =>
    match at? (c :: rest) with
    | some color => erased (rest.drop (color.code.length - 1))
    | none => c :: erased rest
termination_by text.length

/-- A code has one escape character, at its beginning, so no code begins inside of another one. -/
theorem code_eq (color : Color) :
    ∃ rest, color.code.toList = '\x1b' :: rest ∧ '\x1b' ∉ rest := by
  cases color <;> exact ⟨_, rfl, by decide⟩

/-- No code is the beginning of another one, so the first code that fits is the right one. -/
theorem at?_code_append (color : Color) (rest : List Char) :
    at? (color.code.toList ++ rest) = some color := by
  cases color <;> rfl

variable {text : List Char}

theorem code_prefix_of_at? {color : Color} (h : at? text = some color) :
    color.code.toList <+: text :=
  List.isPrefixOf_iff_prefix.1 (by simpa using List.find?_some h)

/-- A code that begins in a text ends in it, if an escape character comes next. -/
theorem code_prefix_append_iff (color : Color) (hText : text ≠ []) (rest : List Char) :
    color.code.toList <+: text ++ '\x1b' :: rest ↔ color.code.toList <+: text := by
  constructor
  · rintro ⟨after, hEq⟩
    rcases List.append_eq_append_iff.1 hEq with ⟨more, rfl, -⟩ | ⟨missing, hCode, hRest⟩
    · exact List.prefix_append _ _
    · obtain ⟨tail, hTail, hEscape⟩ := color.code_eq
      obtain ⟨c, begun, rfl⟩ := List.exists_cons_of_ne_nil hText
      cases missing with
      | nil => simp [hCode]
      | cons d others =>
          obtain ⟨rfl, -⟩ := List.cons.inj hRest
          rw [hTail] at hCode
          obtain ⟨-, rfl⟩ := List.cons.inj hCode
          exact absurd (List.mem_append_right begun List.mem_cons_self) hEscape
  · exact fun h => h.trans (List.prefix_append _ _)

/-- Whether a text begins with a code does not depend on what follows its end, if the next thing
there is an escape character. -/
theorem at?_append (hText : text ≠ []) (rest : List Char) :
    at? (text ++ '\x1b' :: rest) = at? text := by
  have hSame (color : Color) : color.code.toList.isPrefixOf (text ++ '\x1b' :: rest) =
      color.code.toList.isPrefixOf text := by
    rw [Bool.eq_iff_iff, List.isPrefixOf_iff_prefix, List.isPrefixOf_iff_prefix]
    exact code_prefix_append_iff color hText rest
  simp only [at?, hSame]

theorem erased_of_at? {c : Char} {rest : List Char} {color : Color}
    (h : at? (c :: rest) = some color) :
    erased (c :: rest) = erased (rest.drop (color.code.length - 1)) := by
  rw [erased, h]

theorem erased_of_at?_eq_none {c : Char} {rest : List Char} (h : at? (c :: rest) = none) :
    erased (c :: rest) = c :: erased rest := by
  rw [erased, h]

/-- A code leaves no trace, whatever follows it. -/
theorem erased_code_append (color : Color) (rest : List Char) :
    erased (color.code.toList ++ rest) = erased rest := by
  have hAt := at?_code_append color rest
  obtain ⟨tail, hTail, -⟩ := color.code_eq
  have hLength : color.code.length - 1 = tail.length := by
    rw [← String.length_toList, hTail, List.length_cons, Nat.add_sub_cancel]
  rw [hTail, List.cons_append] at hAt ⊢
  rw [erased_of_at? hAt, hLength, List.drop_left]

/-- What comes before an escape character is erased as it is alone. The induction follows the pass,
which never goes beyond it. -/
theorem erased_append (text rest : List Char) :
    erased (text ++ '\x1b' :: rest) = erased text ++ erased ('\x1b' :: rest) := by
  fun_induction erased text with
  | case1 => rfl
  | case2 c others color hAt ih =>
      have hDrop : color.code.length - 1 ≤ others.length := by
        have hCode := (code_prefix_of_at? hAt).length_le
        rw [String.length_toList, List.length_cons] at hCode
        omega
      have hNext := (at?_append (List.cons_ne_nil c others) rest).trans hAt
      rw [List.cons_append] at hNext ⊢
      rw [erased_of_at? hNext, List.drop_append_of_le_length hDrop, ih]
  | case3 c others hAt ih =>
      have hNext := (at?_append (List.cons_ne_nil c others) rest).trans hAt
      rw [List.cons_append] at hNext ⊢
      rw [erased_of_at?_eq_none hNext, ih, List.cons_append]

end Color

/-- Painting adds codes and nothing else, whatever codes or fragments of codes the text holds. -/
theorem erased_paint (palette : Palette) (color : Color) (text : String) :
    Color.erased (palette.paint color text).toList = Color.erased text.toList := by
  rcases palette with ⟨_ | _⟩
  · simp [Palette.paint, Palette.code]
  · obtain ⟨tail, hTail, -⟩ := Color.code_eq .reset
    have hReset : Color.erased ('\x1b' :: tail) = [] := by
      have hErased := Color.erased_code_append .reset []
      rw [hTail, List.append_nil] at hErased
      rw [hErased, Color.erased]
    simp [Palette.paint, Palette.code, Color.erased_code_append, hTail, Color.erased_append, hReset]

end ToolGate
