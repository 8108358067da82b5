import ToolGate.Host.Utility.Lines

/-!
The programs of the host that copy texts: to the standard output, in whole or in part, marked or
turned round, and to files.
-/

namespace ToolGate.Host.Utility

/-- How a text is marked while it is copied. -/
structure Marking where
  numbered : Bool
  /-- Empty lines have no numbers. -/
  sparing : Bool
  /-- Of several empty lines in a row, one remains. -/
  squeezed : Bool
  ends : Bool
  tabs : Bool
  /-- What cannot be printed is shown by what can. -/
  visible : Bool

/-- What has been seen of the lines so far. -/
structure LineState where
  number : Nat := 0
  inLine : Bool := false
  /-- How many empty lines there were last, two standing for more. -/
  empty : Nat := 0

namespace Marking

def numberText (number : Nat) : String :=
  let digits := toString number
  "".pushn ' ' (6 - digits.length) ++ digits ++ "\t"

/-- How a character of seven bits is shown. -/
def caret (c : Char) : String :=
  if c < ' ' then "^" ++ String.singleton (Char.ofNat (c.toNat + 64))
  else if c = '\x7f' then "^?"
  else String.singleton c

/-- How a character is shown, given whether the line ends after it. -/
def shown (marking : Marking) (last : Bool) (c : Char) : String :=
  if c = '\t' then (if marking.tabs then "^I" else "\t")
  else if marking.visible then
    if c.toNat < 128 then caret c else "M-" ++ caret (Char.ofNat (c.toNat - 128))
  else if c = '\r' && marking.ends && last then "^M"
  else String.singleton c

/-- The mark before a line, and the state after it. -/
def startLine (marking : Marking) (isEmpty : Bool) (state : LineState) : String × LineState :=
  if marking.numbered && !(isEmpty && marking.sparing) then
    (numberText (state.number + 1), { state with number := state.number + 1 })
  else ("", state)

/-- Marks a text. What has been marked before comes in pieces, the last one first. -/
def mark (marking : Marking) : LineState → List String → List Char → List String × LineState
  | state, marked, [] => (marked, state)
  | state, marked, '\n' :: rest =>
    let ending := if marking.ends then "$\n" else "\n"
    if state.inLine then
      marking.mark { state with inLine := false, empty := 0 } (ending :: marked) rest
    else if marking.squeezed && 1 ≤ state.empty then marking.mark state marked rest
    else
      let (start, state) := marking.startLine true state
      marking.mark { state with empty := state.empty + 1 } ((start ++ ending) :: marked) rest
  | state, marked, c :: rest =>
    let (start, state) := if state.inLine then ("", state) else marking.startLine false state
    let shown := start ++ marking.shown (rest.head? = some '\n') c
    marking.mark { state with inLine := true, empty := 0 } (shown :: marked) rest

def say (marking : Marking) (state : LineState) (text : String) : Work LineState := do
  let (marked, state) := marking.mark state [] text.toList
  Work.say (String.join marked.reverse)
  return state

end Marking

/-- Where the standard output goes in a file, if it does. -/
def outputPosition (machine : Machine) (channels : Channels) : Option (Place × Nat) :=
  match channels.lookup 1 with
  | some (.file index) => (machine.handles[index]?).map fun handle =>
    (handle.place, if handle.append then (machine.content handle.place).length else handle.offset)
  | _ => none

/-- Where a file that a process is about to read is read from, if it is a file. -/
def inputPosition (machine : Machine) (channels : Channels) (directory : Place) (path : String) :
    Option (Place × Nat) :=
  if path = "-" then
    match channels.lookup 0 with
    | some (.file index) => (machine.handles[index]?).map fun handle => (handle.place, handle.offset)
    | _ => none
  else
    match machine.files.find directory path with
    | .ok (place, .file _ _) => some (place, 0)
    | _ => none

/-- Whether a process would read what it has just written. -/
def isOwnOutput (path : String) : Work Bool := do
  let process ← Work.process
  let positions ← Work.ask fun machine =>
    (inputPosition machine process.channels process.directory path,
      outputPosition machine process.channels)
  match positions with
  | (some (place, start), some (target, stop)) => return place = target && start < stop
  | _ => return false

/-- Writes what files hold, one after the other. A dash stands for the standard input. -/
def cat : Utility := fun args => do
  let (given, paths) ← options 1 [
    .both 'b' "number-nonblank", .both 'n' "number", .both 's' "squeeze-blank",
    .both 'v' "show-nonprinting", .both 'E' "show-ends", .both 'T' "show-tabs",
    .both 'A' "show-all", .short 'e', .short 't', .short 'u'] args
  let hasAny (keys : List String) : Bool := keys.any (has given)
  let marking : Marking := {
    numbered := hasAny ["number", "number-nonblank"]
    sparing := has given "number-nonblank"
    squeezed := has given "squeeze-blank"
    ends := hasAny ["show-ends", "show-all", "e"]
    tabs := hasAny ["show-tabs", "show-all", "t"]
    visible := hasAny ["show-nonprinting", "show-all", "e", "t"] }
  if ((← Work.process).channels.lookup 1).isNone then
    Work.refuse 1 ("standard output: " ++ OsError.numberText 9)
  let paths := sources paths
  let copyOne : LineState × Nat → String → Work (LineState × Nat) := fun (state, code) path => do
    if ← isOwnOutput path then
      Work.complain (Quotation.mention path ++ ": input file is output file")
      return (state, 1)
    else
      match ← Work.contentOrInput path with
      | .ok text => return (← marking.say state text, code)
      | .error error =>
        complainOf path error
        return (state, 1)
  let (_, code) ← paths.foldlM copyOne ({}, 0)
  if paths.contains "-" && ((← Work.process).channels.lookup 0).isNone then
    Work.refuse 1 ("closing standard input: " ++ OsError.numberText 9)
  return code

def tac : Utility := fun args => do
  let (given, paths) ← options 1 [
    .both 'b' "before", .both 'r' "regex", .both 's' "separator" .required] args
  let ending := ((value? given "separator").bind fun text => text.toList.head?).getD '\n'
  Work.forAll (sources paths) fun path => do
    match ← Work.contentOrInput path with
    | .ok text =>
      Work.say (String.ofList (pieces ending text.toList).reverse.flatten)
      return 0
    | .error (.number 21) =>
      Work.complain (Quotation.mention path ++ ": read error: " ++ OsError.numberText 22)
      return 1
    | .error error =>
      Work.complain ("failed to open " ++ Quotation.inQuotes path ++ " for reading: " ++
        Work.reason error)
      return 1

/-- A part of a text, in units that are its lines or its characters. -/
inductive Part where
  | first (count : Nat)
  | butLast (count : Nat)
  | last (count : Nat)
  /-- All from a unit on, the first one having the number one. -/
  | startingAt (number : Nat)
  deriving DecidableEq, Repr

def Part.take {α : Type} (units : List α) : Part → List α
  | .first count => units.take count
  | .butLast count => units.take (units.length - count)
  | .last count => units.drop (units.length - count)
  | .startingAt number => units.drop (number - 1)

/-- How a program that writes a part of its input has been called. -/
structure Excerpt where
  part : Part
  byLines : Bool
  ending : Char
  headed : Bool

def Excerpt.of (excerpt : Excerpt) (text : List Char) : List Char :=
  if excerpt.byLines then (excerpt.part.take (pieces excerpt.ending text)).flatten
  else excerpt.part.take text

def excerptForms : List Form := [
  .both 'c' "bytes" .required, .both 'n' "lines" .required, .both 'q' "quiet", .long "silent",
  .both 'v' "verbose", .both 'z' "zero-terminated"]

/-- The arguments of a program, an old form of the first one replaced: a dash with a number, and
letters. -/
def withoutOldForm : List String → List String
  | arg :: rest =>
    match arg.toList with
    | '-' :: text =>
      let digits := text.takeWhile Char.isDigit
      let letters := text.drop digits.length
      let unit := if letters.contains 'c' then "-c" else "-n"
      let flags := letters.filter fun c => c ≠ 'c' && c ≠ 'l'
      if digits.isEmpty then arg :: rest
      else
        [unit, String.ofList digits] ++
          (if flags.isEmpty then [] else [String.ofList ('-' :: flags)]) ++ rest
    | _ => arg :: rest
  | [] => []

/-- Reads how a program that writes a part of its input has been called. -/
def readExcerpt (part : String → Option Part) (before : Part) (given : List Given)
    (sources : Nat) : Work Excerpt := do
  let byLines := last? given ["bytes", "lines"] ≠ some "bytes"
  let part ←
    match value? given (if byLines then "lines" else "bytes") with
    | none => pure before
    | some text =>
      match part text with
      | some part => pure part
      | none =>
        let what := if byLines then "lines" else "bytes"
        let shown := if text.startsWith "-" then String.ofList (text.toList.drop 1) else text
        Work.refuse 1 ("invalid number of " ++ what ++ ": " ++ Quotation.between shown)
  let headed :=
    match last? given ["quiet", "silent", "verbose"] with
    | some "verbose" => true
    | some _ => false
    | none => 1 < sources
  return { part, byLines, headed, ending := endOf given "zero-terminated" }

def leaveAfter (part text : List Char) (before : String) : Work Unit := do
  let channel := (← Work.process).channel 0
  if Channel.keepsRest channel && part.isPrefixOf text then
    let rest := String.ofList (before.toList.drop part.length)
    Work.change fun machine => machine.leave channel rest

def excerpts (excerpt : Excerpt) (paths : List String) : Work Nat := do
  let waiting ← Work.ask fun machine => machine.waiting
  let channel := (← Work.process).channel 0
  let codes ← paths.zipIdx.mapM fun (path, index) => do
    let shown := if path = "-" then "standard input" else path
    let headline : Work Unit := do
      if excerpt.headed then
        Work.say ((if index = 0 then "" else "\n") ++ "==> " ++ shown ++ " <==\n")
    match ← Work.contentOrInput path with
    | .ok text =>
      headline
      let part := excerpt.of text.toList
      Work.say (String.ofList part)
      match excerpt.part with
      | .first _ => if path = "-" then leaveAfter part text.toList (waiting channel)
      | _ => pure ()
      return 0
    | .error error =>
      if error = .isDirectory || path = "-" then
        headline
        Work.blame "error reading" shown error
      else
        Work.complain ("cannot open " ++ Quotation.inQuotes path ++ " for reading: " ++
          Work.reason error)
      return 1
  return codes.foldl max 0

def head : Utility := fun args => do
  let (given, paths) ← options 1 excerptForms (withoutOldForm args)
  let part (text : String) : Option Part :=
    if text.startsWith "-" then (amount? (String.ofList (text.toList.drop 1))).map .butLast
    else (amount? text).map .first
  let paths := sources paths
  excerpts (← readExcerpt part (.first 10) given paths.length) paths

def tail : Utility := fun args => do
  let (given, paths) ← options 1 excerptForms (withoutOldForm args)
  let part (text : String) : Option Part :=
    let rest := String.ofList (text.toList.drop 1)
    if text.startsWith "+" then (amount? rest).map .startingAt
    else if text.startsWith "-" then (amount? rest).map .last
    else (amount? text).map .last
  let paths := sources paths
  excerpts (← readExcerpt part (.last 10) given paths.length) paths

def tee : Utility := fun args => do
  let (given, paths) ← options 1 [
    .both 'a' "append", .both 'i' "ignore-interrupts", .short 'p',
    .long "output-error" .optional] args
  let text ←
    match ← Work.input with
    | .ok text => pure text
    | .error error =>
      Work.complain ("read error: " ++ Work.reason error)
      throw 1
  Work.say text
  Work.forAll paths fun path => do
    match ← Work.save path text (if has given "append" then .append else .fresh) with
    | .ok () => return 0
    | .error error =>
      complainOf path error
      return 1

end ToolGate.Host.Utility
