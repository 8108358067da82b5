import ToolGate.Host.Editing.Reading

/-!
Running scripts. A run goes from command to command; at the end of the script the line is written,
and the next one is read. What is written goes to sheets: the standard output, files, and the files
that are edited in place.
-/

namespace ToolGate.Host.Editing

structure InputLine where
  text : List Char
  ended : Bool

/-- A file that is read. -/
structure Source where
  name : String
  lines : List InputLine

/-- Where something is written to. -/
inductive Target where
  | output
  | errors
  | file (path : String)
  /-- The file that is edited in place, by its place among those that are read. -/
  | inPlace (index : Nat)
  deriving DecidableEq, Repr

/-- What has been written to a target, and whether its last line lacks an end. -/
structure Sheet where
  target : Target
  /-- The texts, the last one first. -/
  texts : List String := []
  unfinished : Bool := false

def Sheet.text (sheet : Sheet) : String :=
  String.join sheet.texts.reverse

/-- What is written when the line has been dealt with. -/
inductive Pending where
  | text (chars : List Char)
  | file (path : String)

/-- How scripts are run. -/
structure Settings where
  quiet : Bool
  /-- Files are read as texts of their own. -/
  separate : Bool
  inPlace : Bool
  /-- What ends a line. -/
  ending : Char
  width : Nat
  /-- The texts of files that can be put in. -/
  contents : List (String × String)

/-- Where a run has come to. -/
structure State where
  place : Nat := 0
  line : List Char := []
  ended : Bool := true
  held : List Char := []
  heldEnded : Bool := true
  number : Nat := 0
  replaced : Bool := false
  /-- The commands within whose lines the run is, each with the number of the last one if that is
  known. -/
  ranges : List (Nat × Option Nat) := []
  /-- The files that are read, the current one first, with the lines that are left. -/
  sources : List Source
  /-- The place of the file that is read, among all of them. -/
  file : Nat := 0
  pending : List Pending := []
  sheets : List Sheet := []
  lastSearch : Option Regex := none

/-- Why a run ends. -/
structure Halt where
  code : Nat
  problem : Option String := none
  state : State

/-- A step leads to another state, or ends the run. -/
abbrev Step : Type := Except Halt State

namespace State

def main (settings : Settings) (state : State) : Target :=
  if settings.inPlace then .inPlace state.file else .output

/-- Writes a text. A line before it that lacks its end gets it first. -/
def write (settings : Settings) (state : State) (target : Target) (text : String)
    (unfinished : Bool) : State :=
  let sheet := (state.sheets.find? fun sheet => sheet.target = target).getD { target }
  let before := if sheet.unfinished then String.singleton settings.ending :: sheet.texts
    else sheet.texts
  let sheet := { sheet with texts := text :: before, unfinished }
  { state with
    sheets := sheet :: state.sheets.filter fun sheet => sheet.target ≠ target }

def writeLine (settings : Settings) (state : State) (target : Target) (line : List Char) :
    State :=
  let ending := if state.ended then String.singleton settings.ending else ""
  state.write settings target (String.ofList line ++ ending) (!state.ended)

def say (settings : Settings) (state : State) (text : String) : State :=
  state.write settings (state.main settings) text false

def targetOf (path : String) : Target :=
  if path = "/dev/stdout" then .output
  else if path = "/dev/stderr" then .errors
  else .file path

def flush (settings : Settings) (state : State) : State :=
  let state := state.pending.foldl (fun state pending =>
    match pending with
    | .text chars => state.say settings (String.ofList chars)
    | .file path =>
      match settings.contents.lookup path with
      | some text => if text.isEmpty then state else state.say settings text
      | none => state) state
  { state with pending := [] }

def isLast (settings : Settings) (state : State) : Bool :=
  match state.sources with
  | [] => true
  | source :: rest =>
    source.lines.isEmpty && (settings.separate || rest.all fun source => source.lines.isEmpty)

def hasMore (state : State) : Bool :=
  state.sources.any fun source => !source.lines.isEmpty

/-- Takes the next line of some files. Where these are separate, lines are counted anew in each. -/
def takeLine (settings : Settings) (state : State) : List Source → Option (InputLine × State)
  | [] => none
  | source :: rest =>
    match source.lines with
    | line :: lines =>
      some (line, { state with
        sources := { source with lines } :: rest
        number := state.number + 1 })
    | [] =>
      if rest.isEmpty then none
      else
        let state := { state with file := state.file + 1 }
        let state := if settings.separate then { state with number := 0, ranges := [] } else state
        takeLine settings state rest

/-- Reads the next line, which replaces the one before or is added to it. -/
def readLine (settings : Settings) (state : State) (adding : Bool) : Option State := do
  let state := state.flush settings
  let (line, state) ← state.takeLine settings state.sources
  let text := if adding then state.line ++ settings.ending :: line.text else line.text
  return { state with line := text, ended := line.ended, replaced := false }

end State

def isFound (search : Search) (state : State) : Except String (Bool × State) :=
  match search.regex.or state.lastSearch with
  | none => .error "no previous regular expression"
  | some regex =>
    let found := (regex.search search.byLines (Regex.Cursor.start state.line)).isSome
    .ok (found, { state with lastSearch := some regex })

/-- Finds out whether the line is the one that a command asks for. -/
def isSpot (settings : Settings) (spot : Spot) (state : State) : Except String (Bool × State) :=
  match spot with
  | .line number => .ok (state.number = number, state)
  | .every first step =>
    .ok (first ≤ state.number && (state.number - first) % step = 0, state)
  | .last => .ok (state.isLast settings, state)
  | .found search => isFound search state

/-- Notes that the run is within the lines of a command, or no longer. -/
def State.setRange (state : State) (index : Nat) (range : Option (Option Nat)) : State :=
  let others := state.ranges.filter fun entry => entry.1 != index
  { state with ranges := (range.map fun stop => (index, stop)).toList ++ others }

/-- Finds out whether a command applies to the line, where more lines follow the first one. -/
def isInRange (settings : Settings) (index : Nat) (first : Spot) (bound : Bound) (state : State) :
    Except String (Bool × State) := do
  match state.ranges.lookup index with
  | some (some stop) =>
    let state := if stop ≤ state.number then state.setRange index none else state
    return (state.number ≤ stop, state)
  | some none =>
    let (ends, state) ←
      match bound with
      | .found search => isFound search state
      | _ => pure (state.isLast settings, state)
    return (true, if ends then state.setRange index none else state)
  | none =>
    let (starts, state) ← isSpot settings first state
    if !starts then return (false, state)
    else
      let stop? : Option Nat :=
        match bound with
        | .line number => some number
        | .after count => some (state.number + count)
        | .multiple number =>
          some (if number = 0 then state.number
            else (state.number + number - 1) / number * number)
        | .last | .found _ => none
      match stop? with
      | some stop =>
        return (true, if state.number < stop then state.setRange index (some (some stop)) else state)
      | none => return (true, state.setRange index (some none))

def applies (settings : Settings) (index : Nat) (command : Command Nat) (state : State) :
    Except String (Bool × State) := do
  let (inside, state) ←
    match command.address with
    | none => pure (true, state)
    | some ⟨first, none⟩ => isSpot settings first state
    | some ⟨first, some bound⟩ => isInRange settings index first bound state
  return (inside != command.negated, state)

/-- The text in which letters are being changed: the change of the next letter and of all later
ones. -/
structure Cased where
  taken : List Char := []
  next : Option Casing := none
  all : Option Casing := none

/-- Adds characters, the letters changed. -/
def Cased.add (cased : Cased) (chars : List Char) : Cased :=
  chars.foldl (fun cased c =>
    let change :=
      match cased.next, cased.all with
      | some .nextUpper, _ | none, some .upper => c.toUpper
      | some .nextLower, _ | none, some .lower => c.toLower
      | _, _ => c
    { cased with taken := change :: cased.taken, next := none }) cased

def putIn (parts : List Part) (found : Regex.Match) : List Char :=
  let cased : Cased := parts.foldl (fun cased part =>
    match part with
    | .text chars => cased.add chars
    | .group index => cased.add (found.group index)
    | .casing .upper => { cased with all := some .upper }
    | .casing .lower => { cased with all := some .lower }
    | .casing .plain => { cased with all := none, next := none }
    | .casing change => { cased with next := some change }) {}
  cased.taken.reverse

/-- Replaces matches from a place on. `count` is the number of matches before, and an empty match at
`barred` does not count. The fuel is the length of the text and one more. -/
def replaceFrom (regex : Regex) (replacement : Replacement) :
    Nat → Nat → Option Nat → Regex.Cursor → List Char × Bool
  | 0, _, _, cursor => (cursor.rest, false)
  | fuel + 1, count, barred, cursor =>
    match regex.search replacement.search.byLines cursor with
    | none => (cursor.rest, false)
    | some found =>
      let skipped := cursor.upTo found.start
      let isEmpty := found.start.position = found.stop.position
      let counts := !(isEmpty && barred = some found.start.position)
      let count := if counts then count + 1 else count
      let isReplaced := counts &&
        (count = replacement.first || (replacement.all && replacement.first < count))
      let shown := if isReplaced then putIn replacement.parts found else found.text
      let stop := { found.stop with groups := [] }
      let (rest, replaced) :=
        if isReplaced && !replacement.all then (stop.rest, false)
        else if isEmpty then
          match stop.advance? fun _ => true with
          | none => ([], false)
          | some after =>
            let (rest, replaced) := replaceFrom regex replacement fuel count none after
            (stop.rest.take 1 ++ rest, replaced)
        else replaceFrom regex replacement fuel count (some stop.position) stop
      (skipped ++ shown ++ rest, replaced || isReplaced)

/-- The characters of a line so that all of them can be seen, in pieces. -/
def visible (c : Char) : List Char :=
  let letter? := [('\x07', 'a'), ('\x08', 'b'), ('\x0c', 'f'), ('\n', 'n'), ('\r', 'r'),
    ('\t', 't'), ('\x0b', 'v')].lookup c
  match letter? with
  | some letter => ['\\', letter]
  | none =>
    if c = '\\' then ['\\', '\\']
    else if ' ' ≤ c && c ≤ '~' then [c]
    else
      let digit (value : Nat) : Char := Char.ofNat ('0'.toNat + value % 8)
      ['\\', digit (c.toNat / 64), digit (c.toNat / 8), digit c.toNat]

/-- A line so that all of it can be seen, in parts of limited length. `used` is the length of the
last part so far. -/
def visibleLine (limit : Nat) : Nat → List Char → List Char
  | _, [] => ['$', '\n']
  | used, c :: rest =>
    let shown := visible c
    if 0 < limit && limit < used + shown.length then
      ['\\', '\n'] ++ shown ++ visibleLine limit shown.length rest
    else shown ++ visibleLine limit (used + shown.length) rest

namespace State

def forward (state : State) : Step := .ok { state with place := state.place + 1 }

def nextLine (settings : Settings) (state : State) : Step :=
  match state.readLine settings false with
  | some state => .ok { state with place := 0 }
  | none => .error { code := 0, state := state.flush settings }

/-- Writes the line, unless that is done only on demand. -/
def finishLine (settings : Settings) (state : State) : State :=
  if settings.quiet then state
  else state.writeLine settings (state.main settings) state.line

def finish (settings : Settings) (state : State) : Step :=
  (state.finishLine settings).nextLine settings

def firstLine (state : State) : List Char := state.line.takeWhile (· != '\n')

def replace (settings : Settings) (replacement : Replacement) (state : State) : Step := do
  match replacement.search.regex.or state.lastSearch with
  | none => .error { code := 1, problem := some "no previous regular expression", state }
  | some regex =>
    let state := { state with lastSearch := some regex }
    let (line, replaced) := replaceFrom regex replacement (state.line.length + 2) 0 none
      (Regex.Cursor.start state.line)
    if !replaced then state.forward
    else
      let state := { state with line, replaced := true }
      let state := if replacement.printed then
        state.writeLine settings (state.main settings) line else state
      let state :=
        match replacement.target with
        | some path => state.writeLine settings (targetOf path) line
        | none => state
      state.forward

def quit (settings : Settings) (code : Nat) (silent : Bool) (state : State) : Step :=
  let state := if silent then state else (state.finishLine settings).flush settings
  .error { code, state }

def perform (settings : Settings) (index : Nat) (deed : Deed Nat) (state : State) : Step :=
  let main := state.main settings
  match deed with
  | .openBlock _ | .closeBlock | .label => state.forward
  | .jump condition target =>
    let goes :=
      match condition with
      | .always => true
      | .replaced => state.replaced
      | .notReplaced => !state.replaced
    let state := if condition = .always then state else { state with replaced := false }
    if !goes then state.forward
    else
      match target with
      | some place => .ok { state with place }
      | none => state.finish settings
  | .appendText text =>
    let pending := if text.isEmpty then [] else [Pending.text text]
    forward { state with pending := state.pending ++ pending }
  | .insertText text =>
    forward (if text.isEmpty then state else state.say settings (String.ofList text))
  | .changeText text =>
    let inside := (state.ranges.lookup index).isSome
    let state := if inside || text.isEmpty then state else state.say settings (String.ofList text)
    state.nextLine settings
  | .delete => state.nextLine settings
  | .deleteFirst =>
    if state.line.contains '\n' then
      let rest := state.line.drop (state.firstLine.length + 1)
      .ok { state.flush settings with line := rest, place := 0 }
    else state.nextLine settings
  | .print => forward (state.writeLine settings main state.line)
  | .printFirst =>
    forward (state.write settings main
      (String.ofList state.firstLine ++ String.singleton settings.ending) false)
  | .next =>
    if state.hasMore then
      match (state.finishLine settings).readLine settings false with
      | some state => state.forward
      | none => state.quit settings 0 false
    else state.quit settings 0 false
  | .appendNext =>
    match if state.hasMore then state.readLine settings true else none with
    | some state => state.forward
    | none => state.quit settings 0 false
  | .getHeld => forward { state with line := state.held }
  | .appendHeld => forward { state with line := state.line ++ '\n' :: state.held }
  | .hold => forward { state with held := state.line }
  | .appendToHeld => forward { state with held := state.held ++ '\n' :: state.line }
  | .exchange =>
    forward { state with
      line := state.held, held := state.line, ended := state.heldEnded, heldEnded := state.ended }
  | .number => forward (state.say settings (toString state.number ++ "\n"))
  | .fileName =>
    let name := (state.sources.head?.map Source.name).getD "-"
    forward (state.say settings (name ++ "\n"))
  | .clear => forward { state with line := [] }
  | .list width =>
    let limit := width.getD settings.width - 1
    forward (state.say settings (String.ofList (visibleLine limit 0 state.line)))
  | .quit code silent => state.quit settings code silent
  | .readFile path => forward { state with pending := state.pending ++ [.file path] }
  | .writeFile path => forward (state.writeLine settings (targetOf path) state.line)
  | .writeFirst path =>
    forward (state.write settings (targetOf path) (String.ofList state.firstLine ++ "\n") false)
  | .replace replacement => state.replace settings replacement
  | .transliterate pairs =>
    forward { state with line := state.line.map fun c => (pairs.lookup c).getD c }
def step (settings : Settings) (commands : Array (Command Nat)) (state : State) : Step :=
  match commands[state.place]? with
  | none => state.finish settings
  | some command =>
    match applies settings state.place command state with
    | .error problem => .error { code := 1, problem := some problem, state }
    | .ok (true, state) => state.perform settings state.place command.deed
    | .ok (false, state) =>
      match command.deed with
      | .openBlock stop => .ok { state with place := stop }
      | _ => state.forward

end State

def run (step : State → Step) : Nat → State → Halt
  | 0, state => { code := 4, state }
  | fuel + 1, state =>
    match step state with
    | .ok state => run step fuel state
    | .error halt => halt

def stepLimit : Nat := 1000000

/-- The ranges that are open before the first line, those that start at line zero. -/
def openRanges (commands : Array (Command Nat)) : List (Nat × Option Nat) :=
  commands.toList.zipIdx.filterMap fun (command, index) =>
    match command.address with
    | some ⟨.line 0, _⟩ => some (index, none)
    | _ => none

def runScript (settings : Settings) (commands : Array (Command Nat)) (sources : List Source) :
    Halt :=
  let state : State := { sources, ranges := openRanges commands }
  match state.readLine settings false with
  | none => { code := 0, state }
  | some state => run (State.step settings commands) stepLimit state

end ToolGate.Host.Editing
