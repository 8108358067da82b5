/-!
Scripts of the shell as trees. Words keep the pieces that they are made of, since what a word
stands for is known only when the script runs.
-/

namespace ToolGate.Host.Script

/-- What is done to the value of a parameter before it is used. -/
inductive Change where
  /-- Another word takes the place of a missing value. -/
  | orElse
  /-- As before, and the parameter is set to it. -/
  | assign
  /-- A missing value is an error. -/
  | complain
  /-- Another word takes the place of a value that is not missing. -/
  | instead
  | dropFront (longest : Bool)
  | dropBack (longest : Bool)
  /-- The number of characters. -/
  | count
  deriving DecidableEq, Repr

/-- What is done to a numbered channel. -/
inductive RedirectionKind where
  | input
  /-- Writing starts with an empty file. Unless it is forced, a file may be protected from that. -/
  | output (forced : Bool)
  | append
  | both
  /-- The channel becomes another one, or is closed by a dash. -/
  | duplicate
  /-- The word itself is what can be read. -/
  | document
  deriving DecidableEq, Repr

mutual

/-- A part of a word. The mark says whether it stands between double quotes. -/
inductive Piece where
  | text (quoted : Bool) (value : List Char)
  | parameter (quoted : Bool) (name : String)
  /-- A changed parameter. `emptyToo` says whether an empty value counts as missing. -/
  | changed (quoted : Bool) (name : String) (change : Change) (emptyToo : Bool)
      (word : List Piece)
  /-- A parameter that is changed in no known way. -/
  | broken
  /-- What a script writes, without the newlines at its end. -/
  | command (quoted : Bool) (body : Command)
  | arithmetic (quoted : Bool) (expression : List Piece)

/-- A change of one numbered channel. -/
inductive Redirection where
  | mk (number : Nat) (kind : RedirectionKind) (word : List Piece)

/-- A command. Those that can complain know their line, for messages. -/
inductive Command where
  | simple (line : Nat) (assignments : List (String × List Piece)) (words : List (List Piece))
      (redirections : List Redirection)
  | pipeline (commands : List Command)
  | negated (command : Command)
  | both (first second : Command)
  | either (first second : Command)
  | sequence (commands : List Command)
  | background (command : Command)
  | subshell (line : Nat) (body : Command)
  | conditional (condition body : Command) (otherwise : Option Command)
  /-- Repeats a body while a condition holds, or until it does. -/
  | loop (untilHolds : Bool) (condition body : Command)
  | each (line : Nat) (name : String) (words : Option (List (List Piece))) (body : Command)
  | choice (line : Nat) (subject : List Piece) (branches : List (List (List Piece) × Command))
  | define (name : String) (body : Command)
  | redirected (line : Nat) (body : Command) (redirections : List Redirection)

end

instance : Inhabited Piece := ⟨.broken⟩

instance : Inhabited Command := ⟨.sequence []⟩

abbrev Word : Type := List Piece

namespace Redirection

def number : Redirection → Nat
  | mk number _ _ => number

def kind : Redirection → RedirectionKind
  | mk _ kind _ => kind

def word : Redirection → Word
  | mk _ _ word => word

end Redirection

/-- A word of unquoted text only. -/
def plain? : Word → Option String
  | [.text false value] => some (String.ofList value)
  | _ => none

/-- The words with a meaning of their own where a command begins. -/
def keywords : List String :=
  ["!", "\x7b", "\x7d", "case", "do", "done", "elif", "else", "esac", "fi", "for", "if", "in",
    "then", "until", "while"]

/-- The commands of the shell whose errors are only a status. -/
def regularCommands : List String :=
  ["[", "alias", "bg", "cd", "chdir", "command", "echo", "false", "fg", "getopts", "hash", "jobs",
    "kill", "printf", "pwd", "read", "test", "true", "type", "ulimit", "umask", "unalias", "wait"]

/-- The commands of the shell whose errors end it. No function can have their names. -/
def specialCommands : List String :=
  [".", ":", "break", "continue", "eval", "exec", "exit", "export", "local", "readonly", "return",
    "set", "shift", "times", "trap", "unset"]

end ToolGate.Host.Script
