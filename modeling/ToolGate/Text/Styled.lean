import ToolGate.Text.Controls

/-!
Texts whose parts have roles, such as the name of an option that was accepted. A terminal that
shows colours is sent each role's control sequences; for any other reader all control sequences
are taken out again, also those that a quoted argument brought along.
-/

namespace ToolGate.Text

inductive Role where
  | plain
  /-- The mark of a complaint. -/
  | error
  /-- A heading. -/
  | header
  /-- Something to be typed as it stands. -/
  | literal
  /-- Something that would be right. -/
  | valid
  /-- Something that is wrong. -/
  | invalid
  deriving DecidableEq, Repr

def Role.code : Role → String
  | .plain => ""
  | .error => "\x1b[1m\x1b[31m"
  | .header => "\x1b[1m\x1b[4m"
  | .literal => "\x1b[1m"
  | .valid => "\x1b[32m"
  | .invalid => "\x1b[33m"

/-- A text in parts, each with its role. -/
structure Styled where
  parts : List (Role × String)
  deriving DecidableEq, Repr

namespace Styled

/-- A text that plays a role as a whole. -/
def of (role : Role) (text : String) : Styled := ⟨[(role, text)]⟩

instance : Coe String Styled := ⟨of .plain⟩

instance : Append Styled := ⟨fun a b => ⟨a.parts ++ b.parts⟩⟩

def join (texts : List Styled) : Styled := ⟨texts.flatMap Styled.parts⟩

/-- Texts one after another with a text between each two. -/
def intercalate (between : String) (texts : List Styled) : Styled :=
  join (texts.intersperse (of .plain between))

def length (text : Styled) : Nat :=
  (text.parts.map (·.2.length)).foldl (· + ·) 0

def showPart : Role × String → String
  | (.plain, text) => text
  | (role, text) => role.code ++ text ++ "\x1b[0m"

def colored (text : Styled) : String :=
  String.join (text.parts.map showPart)

def bare (text : Styled) : String :=
  withoutControls text.colored

/-- The text for a reader, by whether the reader shows colours. -/
def render (text : Styled) (color : Bool) : String :=
  if color then text.colored else text.bare

end Styled

end ToolGate.Text
