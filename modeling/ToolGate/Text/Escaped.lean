import ToolGate.Text.Hidden

/-!
Texts in quotation marks for log records: a character that would not show, or would end the text,
is written as an escape sequence.
-/

namespace ToolGate.Text

def escapeChar (c : Char) : List Char :=
  if c = '\x00' then ['\\', '0']
  else if c = '\t' then ['\\', 't']
  else if c = '\r' then ['\\', 'r']
  else if c = '\n' then ['\\', 'n']
  else if c = '"' || c = '\\' then ['\\', c]
  else if isHidden c then ['\\', 'u', '\x7b'] ++ Nat.toDigits 16 c.toNat ++ ['\x7d']
  else [c]

def quoted (text : String) : String :=
  "\"" ++ String.ofList (text.toList.flatMap escapeChar) ++ "\""

def quotedOption : Option String → String
  | some text => "Some(" ++ quoted text ++ ")"
  | none => "None"

def quotedList (words : List String) : String :=
  "[" ++ String.intercalate ", " (words.map quoted) ++ "]"

end ToolGate.Text
