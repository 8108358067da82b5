/-!
The colours of status markers. A palette that is switched off writes the bare text.
-/

namespace ToolGate

/-- The colours that status markers use; `reset` returns to the terminal's own. -/
inductive Color where
  | reset
  | red
  | green
  | cyan
  deriving DecidableEq, Repr

def Color.code : Color → String
  | .reset => "\x1b[0m"
  | .red => "\x1b[31m"
  | .green => "\x1b[32m"
  | .cyan => "\x1b[36m"

/-- Whether markers are painted. -/
structure Palette where
  enabled : Bool
  deriving DecidableEq, Repr

namespace Palette

/-- The sequence that this palette writes for a colour: none when it is switched off. -/
def code (palette : Palette) (color : Color) : String :=
  if palette.enabled then color.code else ""

def paint (palette : Palette) (color : Color) (text : String) : String :=
  palette.code color ++ text ++ palette.code .reset

/-- The name of a step, written before its commands run. -/
def header (palette : Palette) (name : String) : String :=
  palette.paint .cyan name

def ok (palette : Palette) : String :=
  palette.paint .green "ok"

def failed (palette : Palette) : String :=
  palette.paint .red "FAILED"

end Palette

/-- Colours are on unless the flag or a non-empty value of the variable turns them off. -/
def colorEnabled (noColorFlag : Bool) (noColorValue : Option String) : Bool :=
  !noColorFlag && (noColorValue.getD "").isEmpty

end ToolGate
