import ToolGate.CommandLine.VariableName
import ToolGate.Host.Script

/-!
What a reader of scripts keeps: the text that is left, the line that has been reached, a token that
was read too early, and the aliases whose texts take the place of words.
-/

namespace ToolGate.Host.Script

open CommandLine (isName)

/-- Why a script cannot be read. -/
inductive Mistake where
  | unterminatedQuote
  | unterminatedSubstitution
  | missingBrace
  | missingParentheses
  | badLoopVariable
  | badFunctionName
  | badChannel
  /-- A token stands where it cannot; another one may have been expected. -/
  | unexpected (token : String) (expected : Option String)
  deriving DecidableEq, Repr

def Mistake.message : Mistake → String
  | .unterminatedQuote => "Syntax error: Unterminated quoted string"
  | .unterminatedSubstitution => "Syntax error: EOF in backquote substitution"
  | .missingBrace => "Syntax error: Missing '\x7d'"
  | .missingParentheses => "Syntax error: Missing '))'"
  | .badLoopVariable => "Syntax error: Bad for loop variable"
  | .badFunctionName => "Syntax error: Bad function name"
  | .badChannel => "Syntax error: Bad fd number"
  | .unexpected token none => "Syntax error: " ++ token ++ " unexpected"
  | .unexpected token (some expected) =>
    "Syntax error: " ++ token ++ " unexpected (expecting " ++ expected ++ ")"

/-- The tokens of a script. -/
inductive Token where
  | finish
  | newline
  | operator (text : String)
  /-- The sign of a redirection, perhaps after the number of a channel. -/
  | redirection (number : Option Nat) (sign : String)
  | keyword (text : String)
  | word (word : Word)
  deriving Inhabited

/-- A text in double quotes. -/
def inQuotes (text : String) : String := "\"" ++ text ++ "\""

def Token.name : Token → String
  | .finish => "end of file"
  | .newline => "newline"
  | .operator text | .keyword text => inQuotes text
  | .redirection _ _ => "redirection"
  | .word _ => "word"

def Token.endsList : Token → Bool
  | .finish => true
  | .operator text => text = ")" || text = ";;"
  | .keyword text => ["\x7d", "do", "done", "elif", "else", "esac", "fi", "then"].contains text
  | _ => false

/-- The operators, longer ones before their beginnings. -/
def operators : List String := ["&&", "||", ";;", ";", "&", "|", "(", ")"]

def redirectionSigns : List String := ["<<-", "<<", "<&", "<>", "<", ">>", ">&", ">|", ">"]

/-- An alias whose text is being read. -/
structure Expanding where
  name : String
  /-- How much of the text that is left follows the text of the alias. -/
  remaining : Nat
  /-- Whether the text of the alias ends with a blank, so that the word after it can be an alias. -/
  endsBlank : Bool

/-- What is left to read, the number of the line that has been reached, how many lines after it
have been taken out already, and a token that was put back. -/
structure Cursor where
  rest : List Char
  line : Nat
  taken : Nat := 0
  pushed : Option Token := none
  aliases : List (String × String) := []
  expanding : List Expanding := []

/-- A reader of scripts. A mistake is reported with its line. -/
abbrev Reader : Type → Type := StateT Cursor (Except (Nat × Mistake))

namespace Reader

/-- Stops at a mistake. -/
def stop {α : Type} (mistake : Mistake) : Reader α := do
  throw ((← get).line, mistake)

def skip (count : Nat) : Reader Unit :=
  modify fun cursor =>
    let newlines := (cursor.rest.take count).count '\n'
    { cursor with
      rest := cursor.rest.drop count
      line := cursor.line + newlines + if newlines = 0 then 0 else cursor.taken
      taken := if newlines = 0 then cursor.taken else 0 }

def takeWhile (test : Char → Bool) : Reader (List Char) := do
  let taken := (← get).rest.takeWhile test
  skip taken.length
  return taken

def comes (text : String) : Reader Bool := do
  return text.toList.isPrefixOf (← get).rest

/-- Skips backslashes at the ends of lines, which join them. -/
def joinLines : Nat → Reader Unit
  | 0 => return
  | fuel + 1 => do
    if ← comes "\\\n" then
      skip 2
      joinLines fuel

def skipBlanks : Nat → Reader Unit
  | 0 => return
  | fuel + 1 => do
    match (← get).rest with
    | ' ' :: _ | '\t' :: _ => skip 1; skipBlanks fuel
    | '\\' :: '\n' :: _ => skip 2; skipBlanks fuel
    | '#' :: _ =>
      let _ ← takeWhile (· != '\n')
    | _ => return

def push (token : Token) : Reader Unit :=
  modify fun cursor => { cursor with pushed := some token }

def unexpected {α : Type} (token : Token) (expected : Option String) : Reader α :=
  stop (.unexpected token.name expected)

/-- Puts the text of an alias in the place of the name that was read last, if there is one that is
not being read already. The result says whether there is. -/
def expandAlias (name : String) : Reader Bool := do
  let cursor ← get
  if cursor.aliases.isEmpty then return false
  else
    let remaining := cursor.rest.length
    let expanding := cursor.expanding.filter fun entry => entry.remaining ≤ remaining
    match cursor.aliases.lookup name with
    | some text =>
      if expanding.any fun entry => entry.name = name then return false
      else
        let endsBlank := text.endsWith " " || text.endsWith "\t"
        set { cursor with
          rest := text.toList ++ cursor.rest
          expanding := ⟨name, remaining, endsBlank⟩ :: expanding }
        return true
    | none => return false

/-- Whether the text of an alias that ends with a blank has been left since a cursor. -/
def leftBlank (before : Cursor) : Reader Bool := do
  let now := (← get).rest.length
  return before.expanding.any fun entry =>
    entry.endsBlank && entry.remaining < before.rest.length && now ≤ entry.remaining

end Reader

def addText (pieces : Word) (quoted : Bool) (value : List Char) : Word :=
  match pieces.getLast? with
  | some (.text mark before) =>
    if mark = quoted then pieces.dropLast ++ [.text quoted (before ++ value)]
    else pieces ++ [.text quoted value]
  | _ => pieces ++ [.text quoted value]

def joinPiece (pieces : Word) : Piece → Word
  | .text quoted value => addText pieces quoted value
  | piece => pieces ++ [piece]

def endsWord (c : Char) : Bool :=
  c = ' ' || c = '\t' || c = '\n' || [';', '&', '|', '<', '>', '(', ')'].contains c

def isActive (c : Char) : Bool :=
  ['\\', '\'', '"', '$', '\x60'].contains c

def specialParameters : List Char := ['@', '*', '#', '?', '$', '!', '-']

def assignment? (word : Word) : Option (String × Word) :=
  match word with
  | .text false text :: rest =>
    let name := text.takeWhile (· != '=')
    if isName name && name.length < text.length then
      let value := text.drop (name.length + 1)
      some (String.ofList name, if value.isEmpty then rest else .text false value :: rest)
    else none
  | _ => none

end ToolGate.Host.Script
