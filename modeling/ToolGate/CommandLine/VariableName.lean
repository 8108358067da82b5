/-!
The names of variables in the grammar of the shell.
-/

namespace ToolGate.CommandLine

def startsName (c : Char) : Bool := c.isAlpha || c = '_'

def isNamePart (c : Char) : Bool := c.isAlphanum || c = '_'

/-- Whether a text is the name of a variable. -/
def isName (text : List Char) : Bool :=
  match text with
  | c :: rest => startsName c && rest.all isNamePart
  | [] => false

theorem isNamePart_of_mem {name : List Char} (hName : isName name = true) {c : Char}
    (hc : c ∈ name) : isNamePart c = true := by
  cases name with
  | nil => simp at hc
  | cons first rest =>
      simp only [isName, Bool.and_eq_true, List.all_eq_true] at hName
      rcases List.mem_cons.1 hc with rfl | hc
      · have hFirst := hName.1
        simp only [startsName, isNamePart, Char.isAlphanum, Bool.or_eq_true] at hFirst ⊢
        exact hFirst.imp_left Or.inl
      · exact hName.2 c hc

end ToolGate.CommandLine
