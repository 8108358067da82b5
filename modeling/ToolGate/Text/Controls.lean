/-!
Control sequences for a terminal inside a text, and what is left to read without them. A sequence
starts with the escape character; where it ends depends on its kind, and one that never ends
swallows the rest. Of the single control characters only those that space a text are kept.
-/

namespace ToolGate.Text

/-- Where a reader of a text stands with respect to control sequences. -/
inductive ControlPhase where
  /-- Outside of any sequence. -/
  | outside
  /-- After the escape character. -/
  | escape
  /-- In a sequence that ends with any character but those from the blank to the slash. -/
  | designation
  /-- In a sequence with parameters, which ends with a letter or the like. -/
  | parameters
  /-- In a command to the terminal, which ends with the bell. -/
  | command
  /-- In the introduction of a text for a device. -/
  | deviceHead
  /-- In a text that is not for display, which ends with the string terminator. -/
  | hidden
  deriving DecidableEq, Repr

/-- Whether a character spaces a text, the blank aside. -/
def isSpacing (c : Char) : Bool :=
  c = '\t' || c = '\n' || c = '\r' || c = '\x0c'

/-- Whether a character is kept outside of control sequences. -/
def isLegible (c : Char) : Bool :=
  isSpacing c || (32 ≤ c.toNat && c.toNat != 127)

/-- Whether the encoded character holds the byte that terminates a string. -/
def terminatesString (c : Char) : Bool :=
  (String.utf8EncodeChar c).contains 0x9c

namespace ControlPhase

/-- Whether spacing is carried out in a phase, which also ends the sequence. -/
def minds : ControlPhase → Bool
  | .outside | .escape | .designation | .parameters => true
  | .command | .deviceHead | .hidden => false

/-- The phase after the character that follows the escape character. -/
def afterEscape (c : Char) : ControlPhase :=
  if c = '[' then .parameters
  else if c = ']' then .command
  else if c = 'P' then .deviceHead
  else if c = 'X' || c = '^' || c = '_' then .hidden
  else if c.toNat < 32 || 127 ≤ c.toNat then .escape
  else if c.toNat < 48 then .designation
  else .outside

/-- The phase after one more character, escape and cancel characters and carried out spacing
aside. -/
def next (phase : ControlPhase) (c : Char) : ControlPhase :=
  match phase with
  | .outside => .outside
  | .escape => afterEscape c
  | .designation => if 48 ≤ c.toNat && c.toNat < 127 then .outside else .designation
  | .parameters => if 64 ≤ c.toNat && c.toNat < 127 then .outside else .parameters
  | .command => if c = '\x07' then .outside else .command
  | .deviceHead =>
    if c = ':' || (64 ≤ c.toNat && c.toNat < 127) then .hidden else .deviceHead
  | .hidden => if terminatesString c then .outside else .hidden

end ControlPhase

/-- The part of a text that is kept, when the reader is in some phase before it. -/
def keptFrom : ControlPhase → List Char → List Char
  | _, [] => []
  | phase, c :: rest =>
    if c = '\x1b' then keptFrom .escape rest
    else if c = '\x18' || c = '\x1a' then keptFrom .outside rest
    else if phase.minds && isSpacing c then c :: keptFrom .outside rest
    else if phase = .outside && isLegible c then c :: keptFrom .outside rest
    else keptFrom (phase.next c) rest

def withoutControls (text : String) : String :=
  String.ofList (keptFrom .outside text.toList)

end ToolGate.Text
