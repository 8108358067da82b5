import ToolGate.Text.Cut

/-!
The shape of a word on a command line, before anything is known about the options.
-/

namespace ToolGate.Options

/-- The shapes of words. -/
inductive Word where
  /-- Two dashes alone: no options follow. -/
  | escape
  /-- Two dashes and a name, which ends at the first equals sign; the value comes after it. -/
  | long (name : List Char) (value : Option (List Char))
  /-- One dash and at least one letter. -/
  | short (first : Char) (rest : List Char)
  /-- Anything else, also a dash alone. -/
  | plain
  deriving DecidableEq, Repr

namespace Word

def read : List Char → Word
  | '-' :: '-' :: rest =>
    if rest.isEmpty then .escape else .long (Text.cut '=' rest).1 (Text.cut '=' rest).2
  | '-' :: letter :: rest => .short letter rest
  | _ => .plain

end Word

end ToolGate.Options
