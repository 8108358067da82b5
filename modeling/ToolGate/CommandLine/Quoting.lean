import ToolGate.Platform

/-!
Writing an argument list as one command line. Every argument is quoted by the conventions of a
platform so that it stays one word, and the quoted arguments are joined by single spaces.
-/

namespace ToolGate.CommandLine

/-- The characters that a POSIX shell reads as themselves wherever they stand in an argument. -/
def isSafe (c : Char) : Bool :=
  c.isAlphanum || ['_', '@', '%', '+', '=', ':', ',', '.', '/', '-'].contains c

/-- A single quote inside single quotes: the quotes are closed, the character is written inside
double quotes, and the single quotes are opened again. -/
def splicedQuote : List Char := ['\'', '"', '\'', '"', '\'']

/-- The text between the outer single quotes of a quoted argument. -/
def spliceQuotes (arg : List Char) : List Char :=
  arg.flatMap fun c => if c = '\'' then splicedQuote else [c]

/-- The form of an argument on a POSIX command line. An argument of safe characters stands for
itself, the empty one is written as a pair of quotes, and any other is put in single quotes. -/
def quotePosix (arg : List Char) : List Char :=
  if arg.isEmpty then ['\'', '\'']
  else if arg.all isSafe then arg
  else '\'' :: (spliceQuotes arg ++ ['\''])

/-- The characters that end or change an argument on a Windows command line: control characters,
blanks, quotation marks and the metacharacters of the command interpreter. -/
def isSpecial (c : Char) : Bool :=
  c.toNat ≤ 0x20 ||
    ['"', '^', '%', '~', '!', '@', '&', '?', '*', '<', '>', '|', '(', ')', '='].contains c

/-- A quotation mark inside quotation marks is written twice. -/
def doubleQuotes (arg : List Char) : List Char :=
  arg.flatMap fun c => if c = '"' then ['"', '"'] else [c]

/-- Whether the backslashes that `text` begins with, possibly none, end at a quotation mark. -/
def leadsToQuote : List Char → Bool
  | [] => false
  | c :: rest => if c = '\\' then leadsToQuote rest else c = '"'

/-- Doubles every run of backslashes that ends right before a quotation mark, so that the mark
keeps its meaning. -/
def guardQuotes : List Char → List Char
  | [] => []
  | c :: rest =>
    if c = '\\' ∧ leadsToQuote rest then '\\' :: '\\' :: guardQuotes rest
    else c :: guardQuotes rest

/-- The form of an argument on a Windows command line. An argument without special characters
stands for itself, also the empty one; any other is put in quotation marks. -/
def quoteWindows (arg : List Char) : List Char :=
  if arg.any isSpecial then guardQuotes ('"' :: (doubleQuotes arg ++ ['"'])) else arg

/-- The form of an argument on a command line of the given platform. -/
def quote (platform : Platform) (arg : String) : String :=
  match platform with
  | .posix => String.ofList (quotePosix arg.toList)
  | .windows => String.ofList (quoteWindows arg.toList)

/-- The command line of an argument list. -/
def join (platform : Platform) (args : List String) : String :=
  String.intercalate " " (args.map (quote platform))

end ToolGate.CommandLine
