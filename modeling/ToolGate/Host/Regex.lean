import ToolGate.Host.CharClass

/-!
Regular expressions in their basic and their extended notation. A text is taken apart into marks
first, and these are put together to an expression. An expression leads from one place in a text to
others; of all matches the leftmost one counts, and of these the longest.
-/

namespace ToolGate.Host

/-- A place that an expression asks for, without a character of its own. -/
inductive Anchor where
  | lineStart
  | lineEnd
  | textStart
  | textEnd
  | wordStart
  | wordEnd
  | wordEdge
  | noWordEdge
  /-- No word goes on from before, and none goes on after. -/
  | clearBefore
  | clearAfter
  deriving DecidableEq, Repr

/-- A regular expression. -/
inductive Regex where
  | nothing
  | oneOf (contains : Char → Bool)
  | anchor (place : Anchor)
  | group (index : Nat) (body : Regex)
  /-- The text that a group has matched before. -/
  | again (index : Nat)
  | inTurn (first second : Regex)
  | either (first second : Regex)
  | repeated (body : Regex) (least : Nat) (most : Option Nat)

namespace Regex

inductive Fault where
  | openBracket
  | unknownClass
  | badRange
  | trailingBackslash
  | badReference
  | openGroup
  | closedGroup
  | openCount
  | badCount
  | nothingToRepeat
  | tooBig
  deriving DecidableEq, Repr

def Fault.message : Fault → String
  | .openBracket => "Unmatched [, [^, [:, [., or [="
  | .unknownClass => "Invalid character class name"
  | .badRange => "Invalid range end"
  | .trailingBackslash => "Trailing backslash"
  | .badReference => "Invalid back reference"
  | .openGroup => "Unmatched ( or \\("
  | .closedGroup => "Unmatched ) or \\)"
  | .openCount => "Unmatched \\\x7b"
  | .badCount => "Invalid content of \\\x7b\\\x7d"
  | .nothingToRepeat => "Invalid preceding regular expression"
  | .tooBig => "Regular expression too big"

/-- How the text of an expression is read. -/
structure Dialect where
  extended : Bool
  /-- Small and capital letters count as equal. -/
  folded : Bool := false
  /-- Operators that make no sense stand for themselves. -/
  lenient : Bool := false
  /-- How often something may be repeated. -/
  mostRepeats : Nat := 32767

/-- A part of the text of an expression. -/
inductive Mark where
  | oneOf (contains : Char → Bool)
  | anchor (place : Anchor)
  | opening
  | closing
  | bar
  | again (index : Nat)
  | count (least : Nat) (most : Option Nat)

/-- A class of characters in which case does not matter if it does not matter to the dialect. -/
def Dialect.class (dialect : Dialect) (contains : Char → Bool) : Char → Bool :=
  if dialect.folded then fun c => contains c || contains c.toLower || contains c.toUpper
  else contains

def Dialect.exactly (dialect : Dialect) (c : Char) : Mark :=
  .oneOf (dialect.class (· == c))

/-- The text between two marks of a special member of a bracket, and what follows it. -/
def takeUntil (close : Char) : List Char → Option (List Char × List Char)
  | c :: ']' :: rest =>
    if c = close then some ([], rest)
    else (takeUntil close (']' :: rest)).map fun (name, rest) => (c :: name, rest)
  | c :: rest => (takeUntil close rest).map fun (name, rest) => (c :: name, rest)
  | [] => none

inductive Member where
  | one (c : Char)
  | all (contains : Char → Bool)

def readMember : List Char → Except Fault (Member × List Char)
  | [] => .error .openBracket
  | '[' :: ':' :: rest =>
    match takeUntil ':' rest with
    | none => .error .openBracket
    | some (name, rest) =>
      match CharClass.table.lookup (String.ofList name) with
      | some contains => .ok (.all contains, rest)
      | none => .error .unknownClass
  | '[' :: '=' :: c :: '=' :: ']' :: rest => .ok (.one c, rest)
  | '[' :: '.' :: c :: '.' :: ']' :: rest => .ok (.one c, rest)
  | c :: rest => .ok (.one c, rest)

/-- Reads the members of a bracket up to its end. A closing bracket at the beginning is a member.
The fuel is the length of the text. -/
def readMembers : Nat → Bool → List Char → Except Fault ((Char → Bool) × List Char)
  | 0, _, _ => .error .openBracket
  | _ + 1, false, ']' :: rest => .ok (fun _ => false, rest)
  | fuel + 1, _, text => do
    let (member, rest) ← readMember text
    match member, rest with
    | .one low, '-' :: ']' :: after =>
      let (contains, rest) ← readMembers fuel false ('-' :: ']' :: after)
      return (fun c => c == low || contains c, rest)
    | .one low, '-' :: after =>
      match ← readMember after with
      | (.all _, _) => .error .badRange
      | (.one high, rest) =>
        if high < low then .error .badRange
        else
          let (contains, rest) ← readMembers fuel false rest
          return (fun c => (low ≤ c && c ≤ high) || contains c, rest)
    | .one low, rest =>
      let (contains, rest) ← readMembers fuel false rest
      return (fun c => c == low || contains c, rest)
    | .all inside, rest =>
      let (contains, rest) ← readMembers fuel false rest
      return (fun c => inside c || contains c, rest)

def readBracket (dialect : Dialect) (text : List Char) : Except Fault (Mark × List Char) := do
  match text with
  | '^' :: rest =>
    let (contains, rest) ← readMembers (rest.length + 1) true rest
    let contains := dialect.class contains
    return (.oneOf fun c => !contains c, rest)
  | _ =>
    let (contains, rest) ← readMembers (text.length + 1) true text
    return (.oneOf (dialect.class contains), rest)

def readNumber (text : List Char) : Option Nat × List Char :=
  let digits := text.takeWhile Char.isDigit
  let value := digits.foldl (fun value c => value * 10 + (c.toNat - '0'.toNat)) 0
  (if digits.isEmpty then none else some value, text.drop digits.length)

def readCount (dialect : Dialect) (text : List Char) : Except Fault (Mark × List Char) := do
  let (least, rest) := readNumber text
  let (most, rest) :=
    match rest with
    | ',' :: rest =>
      let (most, rest) := readNumber rest
      (some most, rest)
    | _ => (none, rest)
  let rest ←
    match dialect.extended, rest with
    | true, '\x7d' :: rest => pure rest
    | false, '\\' :: '\x7d' :: rest => pure rest
    | _, [] => .error .openCount
    | _, _ => .error .badCount
  let (least, most) ←
    match least, most with
    | some least, none => pure (least, some least)
    | some least, some most => pure (least, most)
    | none, some most => pure (0, most)
    | none, none => .error .badCount
  if most.any (· < least) then .error .badCount
  else if dialect.mostRepeats < max least (most.getD 0) then .error .tooBig
  else return (.count least most, rest)

def isWordChar (c : Char) : Bool := c.isAlphanum || c = '_'

/-- What a letter after a backslash stands for in both notations. -/
def letterMark? : Char → Option Mark
  | 'w' => some (.oneOf isWordChar)
  | 'W' => some (.oneOf fun c => !isWordChar c)
  | 's' => some (.oneOf CharClass.isSpace)
  | 'S' => some (.oneOf fun c => !CharClass.isSpace c)
  | '<' => some (.anchor .wordStart)
  | '>' => some (.anchor .wordEnd)
  | 'b' => some (.anchor .wordEdge)
  | 'B' => some (.anchor .noWordEdge)
  | '\x60' => some (.anchor .textStart)
  | '\'' => some (.anchor .textEnd)
  | c => if '1' ≤ c && c ≤ '9' then some (.again (c.toNat - '0'.toNat)) else none

def operator? : Char → Option Mark
  | '*' => some (.count 0 none)
  | '+' => some (.count 1 none)
  | '?' => some (.count 0 (some 1))
  | '(' => some .opening
  | ')' => some .closing
  | '|' => some .bar
  | _ => none

/-- Whether the end of a group or of a branch follows in the basic notation. -/
def branchEnds : List Char → Bool
  | [] => true
  | '\\' :: ')' :: _ | '\\' :: '|' :: _ => true
  | _ => false

/-- Takes the first mark off a text. `fresh` says that nothing stands before it that could be
repeated. -/
def takeMark (dialect : Dialect) (fresh : Bool) (c : Char) (rest : List Char) :
    Except Fault (Mark × List Char) :=
  let operator : Except Fault (Mark × List Char) :=
    match operator? c with
    | some (.count least most) =>
      if !fresh || (dialect.extended && dialect.lenient) then .ok (.count least most, rest)
      else if dialect.extended then .error .nothingToRepeat
      else .ok (dialect.exactly c, rest)
    | some mark => .ok (mark, rest)
    | none => .ok (dialect.exactly c, rest)
  match c, rest with
  | '\\', [] => .error .trailingBackslash
  | '\\', c :: rest =>
    if !dialect.extended && c = '\x7b' then
      if fresh then .error .nothingToRepeat else readCount dialect rest
    else
      match (if dialect.extended then none else operator? c), letterMark? c with
      | some (.count least most), _ =>
        if c = '*' || fresh then .ok (dialect.exactly c, rest) else .ok (.count least most, rest)
      | some mark, _ => .ok (mark, rest)
      | none, some mark => .ok (mark, rest)
      | none, none => .ok (dialect.exactly c, rest)
  | '[', _ => readBracket dialect rest
  | '.', _ => .ok (.oneOf fun _ => true, rest)
  | '*', _ => operator
  | '^', _ =>
    if dialect.extended || fresh then .ok (.anchor .lineStart, rest)
    else .ok (dialect.exactly '^', rest)
  | '$', _ =>
    if dialect.extended || branchEnds rest then .ok (.anchor .lineEnd, rest)
    else .ok (dialect.exactly '$', rest)
  | '\x7b', _ =>
    if !dialect.extended then .ok (dialect.exactly c, rest)
    else
      match if fresh then .error .nothingToRepeat else readCount dialect rest with
      | .ok result => .ok result
      | .error fault => if dialect.lenient then .ok (dialect.exactly c, rest) else .error fault
  | _, _ => if dialect.extended then operator else .ok (dialect.exactly c, rest)

/-- Whether nothing that could be repeated stands before what follows a mark. -/
def Mark.isFresh : Mark → Bool
  | .anchor _ | .opening | .bar => true
  | _ => false

/-- Takes a text apart. The fuel is the length of the text. -/
def readMarks (dialect : Dialect) : Nat → Bool → List Char → Except Fault (List Mark)
  | 0, _, _ | _, _, [] => .ok []
  | fuel + 1, fresh, c :: rest => do
    let (mark, rest) ← takeMark dialect fresh c rest
    return mark :: (← readMarks dialect fuel mark.isFresh rest)

/-- An expression that is being put together: the branches before, the one that grows, and its last
part, which can still be repeated. -/
structure Growing where
  /-- The number of the group, or none for the whole expression. -/
  index : Nat
  branches : Option Regex := none
  branch : Regex := .nothing
  last : Regex := .nothing

namespace Growing

def add (growing : Growing) (part : Regex) : Growing :=
  { growing with branch := .inTurn growing.branch growing.last, last := part }

def closed (growing : Growing) : Regex :=
  let branch := Regex.inTurn growing.branch growing.last
  growing.branches.elim branch (Regex.either · branch)

def nextBranch (growing : Growing) : Growing :=
  { index := growing.index, branches := some growing.closed }

end Growing

/-- Puts marks together. The groups that are open stand on a stack, and those that are complete are
known. A group that ends but has no beginning can stand for the character that would end it. -/
def assemble (lenient : Bool) :
    Growing → List Growing → Nat → List Nat → List Mark → Except Fault (Regex × Nat)
  | growing, [], groups, _, [] => .ok (growing.closed, groups)
  | _, _ :: _, _, _, [] => .error .openGroup
  | growing, stack, groups, complete, mark :: rest =>
    match mark with
    | .oneOf contains => assemble lenient (growing.add (.oneOf contains)) stack groups complete rest
    | .anchor place => assemble lenient (growing.add (.anchor place)) stack groups complete rest
    | .bar => assemble lenient growing.nextBranch stack groups complete rest
    | .again index =>
      if complete.contains index then
        assemble lenient (growing.add (.again index)) stack groups complete rest
      else .error .badReference
    | .count least most =>
      assemble lenient { growing with last := .repeated growing.last least most } stack groups complete rest
    | .opening =>
      assemble lenient { index := groups + 1 } (growing :: stack) (groups + 1) complete rest
    | .closing =>
      match stack with
      | [] =>
        if lenient then
          assemble lenient (growing.add (.oneOf (· == ')'))) stack groups complete rest
        else .error .closedGroup
      | outer :: stack =>
        let group := Regex.group growing.index growing.closed
        assemble lenient (outer.add group) stack groups (growing.index :: complete) rest

/-- Reads an expression. It comes with the number of its groups. -/
def read (dialect : Dialect) (text : List Char) : Except Fault (Regex × Nat) := do
  let marks ← readMarks dialect text.length true text
  assemble dialect.lenient { index := 0 } [] 0 [] marks

/-- A place in a text, with what the groups have matched on the way to it. -/
structure Cursor where
  position : Nat
  /-- The character before the place. -/
  before : Option Char
  rest : List Char
  groups : List (Nat × List Char)
  deriving Repr

namespace Cursor

def start (text : List Char) : Cursor := ⟨0, none, text, []⟩

def advance? (cursor : Cursor) (test : Char → Bool) : Option Cursor :=
  match cursor.rest with
  | c :: rest =>
    if test c then
      some { cursor with position := cursor.position + 1, before := some c, rest }
    else none
  | [] => none

def follow? : List Char → Cursor → Option Cursor
  | [], cursor => some cursor
  | c :: text, cursor => (cursor.advance? (· == c)).bind (follow? text)

def upTo (cursor later : Cursor) : List Char :=
  cursor.rest.take (later.position - cursor.position)

def remember (cursor : Cursor) (index : Nat) (text : List Char) : Cursor :=
  { cursor with groups := (index, text) :: cursor.groups.filter fun entry => entry.1 != index }

/-- Whether the place is one that an anchor asks for. Between lines there are such places only if
that is asked for. -/
def isAt (cursor : Cursor) (byLines : Bool) (place : Anchor) : Bool :=
  let wordBefore := cursor.before.any isWordChar
  let wordAfter := cursor.rest.head?.any isWordChar
  match place with
  | .lineStart => cursor.before.isNone || (byLines && cursor.before = some '\n')
  | .lineEnd => cursor.rest.isEmpty || (byLines && cursor.rest.head? = some '\n')
  | .textStart => cursor.before.isNone
  | .textEnd => cursor.rest.isEmpty
  | .wordStart => !wordBefore && wordAfter
  | .wordEnd => wordBefore && !wordAfter
  | .wordEdge => wordBefore != wordAfter
  | .noWordEdge => wordBefore == wordAfter
  | .clearBefore => !wordBefore
  | .clearAfter => !wordAfter

/-- Of places with the same position the first one. -/
def distinct : List Nat → List Cursor → List Cursor
  | _, [] => []
  | seen, cursor :: rest =>
    if seen.contains cursor.position then distinct seen rest
    else cursor :: distinct (cursor.position :: seen) rest

/-- Some places, the farthest first. Of places with the same position only the first one counts. -/
def longest (cursors : List Cursor) : List Cursor :=
  (distinct [] cursors).mergeSort fun a b => decide (b.position ≤ a.position)

end Cursor

/-- All places that a step leads to when it is taken any number of times, those of more steps first.
Places that have been seen are not left again. The fuel is the length of the text. -/
def explore (step : Cursor → List Cursor) :
    Nat → List Nat × List Cursor → Cursor → List Nat × List Cursor
  | 0, (seen, found), cursor => (seen, cursor :: found)
  | fuel + 1, (seen, found), cursor =>
    if seen.contains cursor.position then (seen, found)
    else
      let next := (step cursor).filter fun next => cursor.position < next.position
      let (seen, found) := next.foldl (explore step fuel) (cursor.position :: seen, found)
      (seen, cursor :: found)

/-- The places that a step leads to when it is taken so often. -/
def times (step : Cursor → List Cursor) : Nat → List Cursor → List Cursor
  | 0, cursors => cursors
  | count + 1, cursors => times step count (Cursor.longest (cursors.flatMap step))

/-- The places that a step leads to when it is taken at most so often, those of more steps
first. -/
def upToTimes (step : Cursor → List Cursor) : Nat → List Cursor → List Cursor
  | 0, cursors => cursors
  | count + 1, cursors =>
    let next := cursors.flatMap fun cursor =>
      (step cursor).filter fun next => cursor.position < next.position
    if next.isEmpty then cursors
    else upToTimes step count (Cursor.longest next) ++ cursors

/-- The places where an expression ends that begins at a place, the farthest first. -/
def ends (byLines : Bool) : Regex → Cursor → List Cursor
  | .nothing, cursor => [cursor]
  | .oneOf contains, cursor => (cursor.advance? contains).toList
  | .anchor place, cursor => if cursor.isAt byLines place then [cursor] else []
  | .group index body, cursor =>
    (body.ends byLines cursor).map fun stop => stop.remember index (cursor.upTo stop)
  | .again index, cursor =>
    match cursor.groups.lookup index with
    | some text => (cursor.follow? text).toList
    | none => []
  | .inTurn first second, cursor =>
    Cursor.longest ((first.ends byLines cursor).flatMap (second.ends byLines ·))
  | .either first second, cursor =>
    Cursor.longest (first.ends byLines cursor ++ second.ends byLines cursor)
  | .repeated body least most, cursor =>
    let step := fun cursor => body.ends byLines cursor
    let reached := times step least [cursor]
    match most with
    | some most => Cursor.longest (upToTimes step (most - least) reached)
    | none =>
      let fuel := cursor.rest.length + 1
      let (_, found) := reached.foldl (explore step fuel) ([], [])
      Cursor.longest found.reverse

structure Match where
  start : Cursor
  stop : Cursor

def Match.text (found : Match) : List Char := found.start.upTo found.stop

/-- The text of a group in a match. Group zero is the whole match. -/
def Match.group (found : Match) (index : Nat) : List Char :=
  if index = 0 then found.text else (found.stop.groups.lookup index).getD []

def search (regex : Regex) (byLines : Bool) (cursor : Cursor) : Option Match :=
  go cursor.before cursor.position cursor.rest
where
  /-- Looks at a place, and then at the ones after it. -/
  go (before : Option Char) (position : Nat) (rest : List Char) : Option Match :=
    let here : Cursor := ⟨position, before, rest, []⟩
    match regex.ends byLines here with
    | stop :: _ => some ⟨here, stop⟩
    | [] =>
      match rest with
      | c :: rest => go (some c) (position + 1) rest
      | [] => none

end Regex

end ToolGate.Host
