import ToolGate.Host.Editing

/-!
Reading scripts. A script comes in pieces, each of which has its own name in messages; commands and
blocks can reach from one piece into the next one.
-/

namespace ToolGate.Host.Editing

/-- What has been read of a script, and what is left of the piece that is read. -/
structure Draft where
  rest : List Char
  extended : Bool
  /-- The commands read so far, the last one first. Labels are names. -/
  commands : List (Command String) := []
  count : Nat := 0
  /-- The places of the blocks that are open, the innermost first. -/
  blocks : List Nat := []
  /-- Where blocks end: their beginnings, and the places after them. -/
  stops : List (Nat × Nat) := []
  labels : List (String × Nat) := []
  /-- Whether lines are written only on demand. -/
  quiet : Bool := false
  /-- Whether the piece is the first one. -/
  isFirst : Bool := true
  /-- The command that waits for its text, which the next piece holds. -/
  waiting : Option (List Char → Deed String) := none

/-- A step of reading a script. It fails with a message, and with what was left of the piece. -/
abbrev Reading : Type → Type := StateT Draft (Except (String × Nat))

namespace Reading

def fail {α : Type} (message : String) : Reading α := do
  throw (message, (← get).rest.length)

def take : Reading (Option Char) := do
  let draft ← get
  match draft.rest with
  | [] => return none
  | c :: rest =>
    set { draft with rest }
    return some c

def putBack (char : Option Char) : Reading Unit :=
  modify fun draft => { draft with rest := char.toList ++ draft.rest }

def takeWhile (test : Char → Bool) : Reading (List Char) := do
  let draft ← get
  let taken := draft.rest.takeWhile test
  set { draft with rest := draft.rest.drop taken.length }
  return taken

def isBlank (c : Char) : Bool := c = ' ' || c = '\t'

def takeVisible : Reading (Option Char) := do
  let _ ← takeWhile isBlank
  take

/-- Takes a number, whose first character has been taken. Where that is no digit, the number is
zero. -/
def number (first : Option Char) : Reading Nat := do
  putBack first
  let digits ← takeWhile Char.isDigit
  return digits.foldl (fun value c => value * 10 + (c.toNat - '0'.toNat)) 0

def endOfCommand : Reading Unit := do
  match ← takeVisible with
  | none | some '\n' | some ';' => return ()
  | some c =>
    if c = '\x7d' || c = '#' then putBack (some c)
    else fail "extra characters after command"

end Reading

/-- Where a bracket is being read: before its members, where a closing bracket is one, or within. -/
inductive InBracket where
  | outside
  | start
  | inside
  deriving DecidableEq, Repr

/-- Takes a text up to a separator, in an expression or in what replaces it. A backslash lets the
separator stand for itself; brackets hide it. -/
def takeSeparated (separator : Char) (isRegex : Bool) :
    InBracket → List Char → List Char → Option (List Char) × List Char
  | _, _, [] => (none, [])
  | bracket, taken, '\\' :: c :: rest =>
    let next := if bracket = .outside then .outside else .inside
    if c = separator && (isRegex || c ≠ '&') then
      takeSeparated separator isRegex next (c :: taken) rest
    else if c = 'n' && isRegex then takeSeparated separator isRegex next ('\n' :: taken) rest
    else if c = '\n' then takeSeparated separator isRegex next ('\n' :: taken) rest
    else if c = ']' && bracket ≠ .outside then
      takeSeparated separator isRegex .inside ('\\' :: taken) (c :: rest)
    else takeSeparated separator isRegex next (c :: '\\' :: taken) rest
  | bracket, taken, c :: rest =>
    if c = '\n' then (none, c :: rest)
    else if c = separator && bracket = .outside then (some taken.reverse, rest)
    else
      let next :=
        match bracket with
        | .outside => if isRegex && c = '[' then .start else .outside
        | .start => if c = '^' && taken.head? = some '[' then .start else .inside
        | .inside => if c = ']' then .outside else .inside
      takeSeparated separator isRegex next (c :: taken) rest
termination_by _ _ text => text.length
decreasing_by all_goals (simp only [List.length_cons]; omega)

/-- The character that digits after a backslash stand for, given their base and how many there can
be, and what follows them. -/
def takeCode (base most : Nat) (text : List Char) : Option (Char × List Char) :=
  let value? (c : Char) : Option Nat :=
    if c.isDigit then some (c.toNat - '0'.toNat)
    else if 'a' ≤ c && c ≤ 'f' then some (c.toNat - 'a'.toNat + 10)
    else if 'A' ≤ c && c ≤ 'F' then some (c.toNat - 'A'.toNat + 10)
    else none
  let digits := (text.take most).takeWhile fun c => (value? c).any (· < base)
  if digits.isEmpty then none
  else
    let value := digits.foldl (fun value c => value * base + (value? c).getD 0) 0
    some (Char.ofNat (value % 256), text.drop digits.length)

/-- The character that an escape stands for, and what follows it. -/
def takeEscape : Char → List Char → Option (Char × List Char)
  | 'a', rest => some ('\x07', rest)
  | 'f', rest => some ('\x0c', rest)
  | 'n', rest => some ('\n', rest)
  | 'r', rest => some ('\r', rest)
  | 't', rest => some ('\t', rest)
  | 'v', rest => some ('\x0b', rest)
  | 'd', rest => takeCode 10 3 rest
  | 'o', rest => takeCode 8 3 rest
  | 'x', rest => takeCode 16 2 rest
  | 'c', c :: rest => some (Char.ofNat ((c.toUpper.toNat + 64) % 128), rest)
  | _, _ => none

/-- The text of an expression, its escapes replaced. A character that has a meaning there stands for
itself if it is written by its number. The fuel is the length of the text. -/
def withoutEscapes : Nat → List Char → List Char
  | 0, text => text
  | _, [] => []
  | fuel + 1, '\\' :: c :: rest =>
    match takeEscape c rest with
    | some (char, rest) =>
      let isSpecial := ['*', '.', '[', ']', '^', '$', '/', '\\', '+', '?'].contains char
      (if isSpecial then ['\\', char] else [char]) ++ withoutEscapes fuel rest
    | none => '\\' :: c :: withoutEscapes fuel rest
  | fuel + 1, c :: rest => c :: withoutEscapes fuel rest

/-- Reads what is put in for a match. The fuel is the length of the text. -/
def readParts : Nat → List Char → List Part
  | 0, _ | _, [] => []
  | fuel + 1, '\\' :: c :: rest =>
    let casing? := [('U', Casing.upper), ('L', .lower), ('u', .nextUpper), ('l', .nextLower),
      ('E', .plain)].lookup c
    match casing?, takeEscape c rest with
    | some change, _ => .casing change :: readParts fuel rest
    | none, some (char, rest) => .text [char] :: readParts fuel rest
    | none, none =>
      let part := if c.isDigit then Part.group (c.toNat - '0'.toNat) else .text [c]
      part :: readParts fuel rest
  | fuel + 1, '&' :: rest => .group 0 :: readParts fuel rest
  | fuel + 1, c :: rest => .text [c] :: readParts fuel rest

namespace Reading

def separated (separator : Option Char) (isRegex : Bool) (problem : String) :
    Reading (List Char) := do
  match separator with
  | none => fail problem
  | some separator =>
    let draft ← get
    let (text, rest) := takeSeparated separator isRegex .outside [] draft.rest
    set { draft with rest }
    match text with
    | some text => return text
    | none => fail problem

/-- Makes an expression of its text. It comes with the number of its groups. -/
def search (text : List Char) (folded byLines : Bool) : Reading (Search × Nat) := do
  if text.isEmpty then return ({ regex := none, byLines }, 9)
  else
    let dialect : Regex.Dialect := { extended := (← get).extended, folded }
    match Regex.read dialect (withoutEscapes text.length text) with
    | .ok (regex, groups) => return ({ regex := some regex, byLines }, groups)
    | .error fault => fail fault.message

def searchFlags : Nat → Bool → Bool → Reading (Bool × Bool)
  | 0, folded, byLines => return (folded, byLines)
  | fuel + 1, folded, byLines => do
    match ← takeVisible with
    | some 'I' => searchFlags fuel true byLines
    | some 'M' => searchFlags fuel folded true
    | c =>
      putBack c
      return (folded, byLines)

/-- Takes an expression that stands for lines, after its first character. -/
def lineSearch (first : Char) : Reading Search := do
  let separator ← if first = '\\' then take else pure (some first)
  let text ← separated separator true "unterminated address regex"
  let (folded, byLines) ← searchFlags (← get).rest.length false false
  return (← search text folded byLines).1

/-- Takes the line that a command applies to, or the first one, whose first character has been
taken. -/
def spot (first : Option Char) : Reading (Option Spot) := do
  match first with
  | some '$' => return some .last
  | some c =>
    if c = '/' || c = '\\' then return some (.found (← lineSearch c))
    else if c.isDigit then
      let line ← number first
      match ← takeVisible with
      | some '~' =>
        let step ← number (← takeVisible)
        return some (if step = 0 then .line line else .every line step)
      | other =>
        putBack other
        return some (.line line)
    else if c = '+' || c = '~' then
      let _ ← number (← takeVisible)
      fail "invalid usage of +N or ~N as first address"
    else return none
  | none => return none

def bound : Reading Bound := do
  match ← takeVisible with
  | some '$' => return .last
  | some '+' => return .after (← number (← takeVisible))
  | some '~' => return .multiple (← number (← takeVisible))
  | some c =>
    if c = '/' || c = '\\' then return .found (← lineSearch c)
    else if c.isDigit then return .line (← number (some c))
    else fail "unexpected \x60,'"
  | none => fail "unexpected \x60,'"

/-- Takes the lines that a command applies to, and the first character of what follows. -/
def address (first : Option Char) : Reading (Option Address × Option Char) := do
  match ← spot first with
  | none => return (none, first)
  | some spot =>
    let next ← takeVisible
    let (bound, next) ←
      if next = some ',' then do
        let bound ← bound
        pure (some bound, ← takeVisible)
      else pure (none, next)
    match spot, bound with
    | .line 0, some (.found _) => pure ()
    | .line 0, _ => fail "invalid usage of line address 0"
    | _, _ => pure ()
    return (some ⟨spot, bound⟩, next)

def label : Reading String := do
  let _ ← takeWhile isBlank
  return String.ofList (← takeWhile fun c => !(CharClass.isSpace c || c = ';' || c = '\x7d'))

def path : Reading String := do
  let _ ← takeWhile isBlank
  let path ← takeWhile (· != '\n')
  let _ ← take
  if path.isEmpty then fail "missing filename in r/R/w/W commands"
  else return String.ofList path

/-- Takes the lines of a text up to one that does not end with a backslash. Other backslashes are
left out, or stand for a character together with what follows. The fuel is the length of the
text. -/
def textLines : Nat → List Char → List Char × List Char
  | 0, rest => ([], rest)
  | fuel + 1, text =>
    let (char, rest) :=
      match text with
      | '\\' :: c :: rest => (takeEscape c rest).getD (c, rest)
      | c :: rest => (c, rest)
      | [] => ('\n', [])
    match text with
    | [] | ['\\'] => ([], [])
    | '\n' :: rest => ([], rest)
    | _ =>
      let (taken, rest) := textLines fuel rest
      (char :: taken, rest)

/-- Takes a text of lines, the end of the last one included. -/
def takeLines : Reading (List Char) := do
  let draft ← get
  let (text, rest) := textLines (draft.rest.length + 1) draft.rest
  set { draft with rest }
  return text ++ ['\n']

/-- Takes the text of a command that puts it in, or lets the next piece hold it. -/
def text (deed : List Char → Deed String) : Reading (Option (Deed String)) := do
  match ← takeVisible with
  | none => fail "expected \\ after \x60a', \x60c' or \x60i'"
  | some '\\' =>
    let draft ← get
    match draft.rest, draft.rest.dropWhile isBlank with
    | [], _ =>
      set { draft with waiting := some deed }
      return none
    | _, '\n' :: rest => set { draft with rest }
    | _, _ => pure ()
  | other => putBack other
  return some (deed (← takeLines))

/-- The letters after a command that replaces. -/
structure Flags where
  first : Option Nat := none
  all : Bool := false
  printed : Bool := false
  folded : Bool := false
  byLines : Bool := false
  target : Option String := none

def flags : Nat → Flags → Reading Flags
  | 0, flags => return flags
  | fuel + 1, given => do
    match ← take with
    | none | some '\n' | some ';' => return given
    | some 'i' | some 'I' => flags fuel { given with folded := true }
    | some 'm' | some 'M' => flags fuel { given with byLines := true }
    | some 'g' =>
      if given.all then fail "multiple \x60g' options to \x60s' command"
      else flags fuel { given with all := true }
    | some 'p' =>
      if given.printed then fail "multiple \x60p' options to \x60s' command"
      else flags fuel { given with printed := true }
    | some 'w' => return { given with target := some (← path) }
    | some c =>
      if c.isDigit then
        if given.first.isSome then fail "multiple number options to \x60s' command"
        else
          let first ← number (some c)
          if first = 0 then fail "number option to \x60s' command may not be zero"
          else flags fuel { given with first := some first }
      else if c = '\x7d' || c = '#' then
        putBack (some c)
        return given
      else if CharClass.isSpace c then flags fuel given
      else fail "unknown option to \x60s'"

def greatestGroup (parts : List Part) : Nat :=
  parts.foldl (fun greatest part =>
    match part with
    | .group index => max greatest index
    | _ => greatest) 0

def replacement : Reading Replacement := do
  let separator ← take
  let problem := "unterminated \x60s' command"
  let regex ← separated separator true problem
  let text ← separated separator false problem
  let parts := readParts text.length text
  let flags ← flags ((← get).rest.length + 1) {}
  let (search, groups) ← search regex flags.folded flags.byLines
  let greatest := greatestGroup parts
  if groups < greatest then
    fail ("invalid reference \\" ++ toString greatest ++ " on \x60s' command's RHS")
  return {
    search, parts
    first := flags.first.getD 1
    all := flags.all
    printed := flags.printed
    target := flags.target }

/-- The characters of a list of characters, two of which can stand for one. -/
def listed : List Char → List Char
  | '\\' :: '\\' :: rest => '\\' :: listed rest
  | '\\' :: 'n' :: rest => '\n' :: listed rest
  | '\\' :: c :: rest => c :: listed rest
  | c :: rest => c :: listed rest
  | [] => []

def pairs : Reading (List (Char × Char)) := do
  let separator ← take
  let problem := "unterminated \x60y' command"
  let first := listed (← separated separator false problem)
  let second := listed (← separated separator false problem)
  if first.length ≠ second.length then fail "strings for \x60y' command are different lengths"
  endOfCommand
  return first.zip second

def optionalNumber : Reading (Option Nat) := do
  let next ← takeVisible
  if next.any Char.isDigit then return some (← number next)
  else
    putBack next
    return none

/-- Takes the end of a command that consists of a letter. -/
def plain (deed : Deed String) : Reading (Option (Deed String)) := do
  endOfCommand
  return some deed

/-- Takes a command whose lines are known, after its letter. A comment is no command, and the text
of a command can be missing still. -/
def deed (address : Option Address) (letter : Option Char) :
    Reading (Option (Deed String)) := do
  match letter with
  | none => fail "missing command"
  | some '\x7b' =>
    modify fun draft => { draft with blocks := draft.count :: draft.blocks }
    return some (.openBlock "")
  | some '\x7d' =>
    match (← get).blocks with
    | [] => fail "unexpected \x60\x7d'"
    | start :: blocks =>
      if address.isSome then fail "\x7d doesn't want any addresses"
      endOfCommand
      modify fun draft =>
        { draft with blocks, stops := (start, draft.count + 1) :: draft.stops }
      return some .closeBlock
  | some ':' =>
    if address.isSome then fail ": doesn't want any addresses"
    let label ← label
    if label.isEmpty then fail "\":\" lacks a label"
    modify fun draft => { draft with labels := (label, draft.count) :: draft.labels }
    return some .label
  | some 'a' => text .appendText
  | some 'i' => text .insertText
  | some 'c' => text .changeText
  | some 'b' => jump .always
  | some 't' => jump .replaced
  | some 'T' => jump .notReplaced
  | some 'q' | some 'Q' =>
    if address.any fun address => address.bound.isSome then
      fail "command only uses one address"
    let code ← optionalNumber
    plain (.quit (code.getD 0) (letter = some 'Q'))
  | some 'l' =>
    let width ← optionalNumber
    plain (.list width)
  | some 'r' => return some (.readFile (← path))
  | some 'w' => return some (.writeFile (← path))
  | some 'W' => return some (.writeFirst (← path))
  | some 's' => return some (.replace (← replacement))
  | some 'y' => return some (.transliterate (← pairs))
  | some '=' => plain .number
  | some 'd' => plain .delete
  | some 'D' => plain .deleteFirst
  | some 'F' => plain .fileName
  | some 'g' => plain .getHeld
  | some 'G' => plain .appendHeld
  | some 'h' => plain .hold
  | some 'H' => plain .appendToHeld
  | some 'n' => plain .next
  | some 'N' => plain .appendNext
  | some 'p' => plain .print
  | some 'P' => plain .printFirst
  | some 'v' =>
    let _ ← label
    return some .label
  | some 'x' => plain .exchange
  | some 'z' => plain .clear
  | some c => fail ("unknown command: \x60" ++ String.singleton c ++ "'")
where
  /-- Takes the label of a command that goes on elsewhere. -/
  jump (condition : Condition) : Reading (Option (Deed String)) := do
    let label ← label
    plain (.jump condition (if label.isEmpty then none else some label))

def add (command : Command String) : Reading Unit :=
  modify fun draft =>
    { draft with commands := command :: draft.commands, count := draft.count + 1 }

/-- Takes a comment. One at the very beginning can ask for quiet. -/
def comment (atStart : Bool) : Reading Unit := do
  let line ← takeWhile (· != '\n')
  if atStart && line == ['n'] then modify fun draft => { draft with quiet := true }

/-- Takes the commands of a piece. The fuel is the length of the piece. -/
def commands (length : Nat) : Nat → Reading Unit
  | 0 => return ()
  | fuel + 1 => do
    let _ ← takeWhile fun c => CharClass.isSpace c || c = ';'
    match ← take with
    | none => return ()
    | first =>
      let (address, next) ← address first
      let (negated, next) ←
        if next = some '!' then do pure (true, ← takeVisible) else pure (false, next)
      if negated && next = some '!' then fail "multiple \x60!'s"
      if next = some '#' then
        if address.isSome then fail "comments don't accept any addresses"
        let draft ← get
        comment (draft.isFirst && draft.rest.length + 1 = length)
      else
        match ← deed address next with
        | some deed => add ⟨address, negated, deed⟩
        | none =>
          -- The command has no text yet; its place is kept.
          add ⟨address, negated, .label⟩
      commands length fuel

/-- Takes a piece. A command that waits for its text takes it from the beginning. -/
def piece (chars : List Char) : Reading Unit := do
  modify fun draft => { draft with rest := chars }
  match (← get).waiting with
  | some deed =>
    let text ← takeLines
    modify fun draft =>
      let commands :=
        match draft.commands with
        | command :: before => { command with deed := deed text } :: before
        | [] => []
      { draft with commands, waiting := none }
  | none => pure ()
  commands chars.length (chars.length + 1)
  modify fun draft => { draft with isFirst := false }

end Reading

/-- A piece of a script, by its name in messages: its place among those that are arguments, or the
name of the file that holds it. -/
structure Piece where
  text : String
  file : Option String
  number : Nat

/-- A script that has been read. -/
structure Script where
  commands : Array (Command Nat)
  quiet : Bool

/-- The beginning of a message about a piece, given how much of it is left. -/
def Piece.place (piece : Piece) (left : Nat) : String :=
  let taken := piece.text.toList.take (piece.text.length - left)
  match piece.file with
  | some path => "file " ++ path ++ " line " ++ toString ((taken.count '\n') + 1) ++ ": "
  | none => "-e expression #" ++ toString piece.number ++ ", char " ++ toString taken.length ++ ": "

def readPieces : Draft → List Piece → Except String Draft
  | draft, [] => .ok draft
  | draft, piece :: rest =>
    match (Reading.piece piece.text.toList).run draft with
    | .ok (_, draft) => readPieces draft rest
    | .error (message, left) => .error (piece.place left ++ message)

/-- A command whose labels are places. A label that is missing is a fault. -/
def Draft.resolve (draft : Draft) (index : Nat) (command : Command String) :
    Except String (Command Nat) := do
  let deed : Deed Nat ←
    match command.deed with
    | .openBlock _ => pure (.openBlock ((draft.stops.lookup index).getD draft.count))
    | .jump condition none => pure (.jump condition none)
    | .jump condition (some label) =>
      match draft.labels.lookup label with
      | some place => pure (.jump condition (some place))
      | none => .error ("can't find label for jump to \x60" ++ label ++ "'")
    | .closeBlock => pure .closeBlock
    | .label => pure .label
    | .appendText text => pure (.appendText text)
    | .insertText text => pure (.insertText text)
    | .changeText text => pure (.changeText text)
    | .delete => pure .delete
    | .deleteFirst => pure .deleteFirst
    | .print => pure .print
    | .printFirst => pure .printFirst
    | .next => pure .next
    | .appendNext => pure .appendNext
    | .getHeld => pure .getHeld
    | .appendHeld => pure .appendHeld
    | .hold => pure .hold
    | .appendToHeld => pure .appendToHeld
    | .exchange => pure .exchange
    | .number => pure .number
    | .fileName => pure .fileName
    | .clear => pure .clear
    | .list width => pure (.list width)
    | .quit code silent => pure (.quit code silent)
    | .readFile path => pure (.readFile path)
    | .writeFile path => pure (.writeFile path)
    | .writeFirst path => pure (.writeFirst path)
    | .replace replacement => pure (.replace replacement)
    | .transliterate pairs => pure (.transliterate pairs)
  return { address := command.address, negated := command.negated, deed }

def readScript (extended : Bool) (pieces : List Piece) : Except String Script := do
  let draft ← readPieces { rest := [], extended } pieces
  let first : Piece := pieces.headD ⟨"", none, 1⟩
  unless draft.blocks.isEmpty do .error (first.place first.text.length ++ "unmatched \x60\x7b'")
  let commands :=
    match draft.waiting, draft.commands with
    | some deed, command :: before => { command with deed := deed [] } :: before
    | _, commands => commands
  let resolved ← (commands.reverse.zipIdx).mapM fun (command, index) =>
    draft.resolve index command
  return { commands := resolved.toArray, quiet := draft.quiet }

end ToolGate.Host.Editing
