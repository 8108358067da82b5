/-!
How programs write a name or an argument that they speak of. One form is read back by a shell; in
the other one a text stands between apostrophes, and a backslash marks what cannot be printed.
-/

namespace ToolGate.Host.Quotation

/-- Whether a character of eight bits has a printed form of its own. -/
def isPrinted (c : Char) : Bool := ' ' ≤ c && c ≤ '~'

def letter? (c : Char) : Option Char :=
  [('\x07', 'a'), ('\x08', 'b'), ('\x0c', 'f'), ('\n', 'n'), ('\r', 'r'), ('\t', 't'),
    ('\x0b', 'v')].lookup c

def octalDigits (c : Char) : List Char :=
  let digit (value : Nat) : Char := Char.ofNat ('0'.toNat + value % 8)
  [digit (c.toNat / 64), digit (c.toNat / 8), digit c.toNat]

def code (c : Char) : List Char :=
  match letter? c with
  | some letter => [letter]
  | none => octalDigits c

def between (text : String) : String :=
  let shown := text.toList.flatMap fun c =>
    if c = '\'' || c = '\\' then ['\\', c]
    else if isPrinted c then [c]
    else '\\' :: code c
  "'" ++ String.ofList shown ++ "'"

/-- The characters that a shell would read in its own way. -/
def special : List Char :=
  [' ', '!', '"', '$', '&', '\'', '(', ')', '*', ';', '<', '=', '>', '?', '[', '\\', '^', '\x60',
    '|']

/-- Whether a shell would read a text in its own way. A mark at the start, or a lone brace, counts
too. -/
def needsQuotes (text : List Char) : Bool :=
  text.isEmpty || text == ['{'] || text == ['}'] || text.head? == some '#' ||
    text.head? == some '~' || text.any fun c => special.contains c || !isPrinted c

/-- Whether double quotes would let a character stand for itself. -/
def isPlainInDouble (c : Char) : Bool :=
  c.isAlphanum || ['\'', ' ', '%', '+', ',', '-', '.', '/', ':', '@', ']', '_'].contains c

/-- Whether double quotes would let a text stand for itself. -/
def fitsDouble (text : List Char) : Bool :=
  match text with
  | c :: rest => (isPlainInDouble c || c = '#' || c = '~') && rest.all isPlainInDouble
  | [] => true

/-- The text between single quotes. What cannot be printed stands in quotes of its own; `marked`
says whether such quotes are open. -/
def spliced : Bool → List Char → List Char
  | _, [] => []
  | marked, c :: rest =>
    if c = '\'' then ['\'', '\\', '\'', '\''] ++ spliced false rest
    else if isPrinted c then (if marked then ['\'', '\''] else []) ++ c :: spliced false rest
    else (if marked then ['\\'] else ['\'', '$', '\'', '\\']) ++ code c ++ spliced true rest

/-- A text in quotes, so that a shell would read it back. -/
def inQuotes (text : String) : String :=
  let chars := text.toList
  if chars.contains '\'' && fitsDouble chars then "\"" ++ text ++ "\""
  else "'" ++ String.ofList (spliced false chars) ++ "'"

/-- A text as a shell would read it back, in quotes where it needs them. -/
def forShell (text : String) : String :=
  if needsQuotes text.toList then inQuotes text else text

/-- A text as a script could write it: what is between single quotes stands between such quotes, and
the quotes themselves between double ones. The fuel is the length of the text and one more. -/
def scripted : Nat → List Char → List Char
  | 0, _ => []
  | fuel + 1, text =>
    let plain := text.takeWhile (· != '\'')
    let after := text.drop plain.length
    let quotes := after.takeWhile (· == '\'')
    let rest := after.drop quotes.length
    let first := ['\''] ++ plain ++ ['\'']
    if quotes.isEmpty then first
    else
      first ++ ['"'] ++ quotes ++ ['"'] ++ (if rest.isEmpty then [] else scripted fuel rest)

def inScript (text : String) : String :=
  String.ofList (scripted (text.length + 1) text.toList)

/-- A name at the beginning of a message, which a colon ends. -/
def mention (name : String) : String :=
  if needsQuotes name.toList || name.toList.contains ':' then inQuotes name else name

end ToolGate.Host.Quotation
