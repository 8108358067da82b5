import ToolGate.Host.Loading
import ToolGate.Host.Utility.Lines
import ToolGate.Host.Utility.Words

/-!
The programs of the host that run other programs: in other surroundings, for a limited time, or with
arguments that are read.
-/

namespace ToolGate.Host.Utility

/-- The codes of a program for a program that cannot be started: 127 for a missing one. -/
def startCode (error : OsError) : Nat :=
  if error = .notFound then 127 else 126

/-- Puts a program in the place of the one that works. One that cannot be started is complained
about. -/
def become (launch : Launch) (process : Process) (words : List String) : Work WaitStatus := do
  let name := words.headD ""
  let image ← Work.ask fun machine =>
    Loading.loadOrInterpret machine.files process.directory (process.valueOf? "PATH") name words
  match image with
  | .error error =>
    Work.complain (Quotation.inQuotes name ++ ": " ++ Work.reason error)
    return .exited (startCode error)
  | .ok image =>
    let (status, machine) ← Work.ask
      (launch image.program { process with words := image.words })
    Work.change fun _ => machine
    return status

/-- Runs a program in a process of its own, and waits for its end. -/
def runChild (launch : Launch) (channels : Channels) (words : List String) :
    Work (Except OsError WaitStatus) := do
  let process ← Work.process
  let name := words.headD ""
  let image ← Work.ask fun machine =>
    Loading.loadOrInterpret machine.files process.directory (process.valueOf? "PATH") name words
  match image with
  | .error error => return .error error
  | .ok image =>
    let (number, machine) ← Work.ask fun machine => machine.beginProcess process.number
    let child : Process := { process with
      words := image.words, channels, number, parent := process.number }
    let (status, machine) := launch image.program child machine
    Work.change fun _ => machine.endProcess
    return .ok status

/-- The name of a variable in a definition of the form `NAME=value`. -/
def definedName (text : String) : String :=
  String.ofList (text.toList.takeWhile (· != '='))

/-- Adds a definition, in the place of the first one of the same variable. -/
def define (text : String) : List String → List String
  | [] => [text]
  | other :: rest =>
    if definedName other = definedName text then text :: rest else other :: define text rest

def env : Starter := fun launch args => do
  let (given, operands) ← options 125 [
    .both 'i' "ignore-environment", .both '0' "null", .both 'u' "unset" .required,
    .both 'C' "chdir" .required, .both 'v' "debug"] args false
  let process ← Work.process
  let (empty, operands) :=
    match operands with
    | "-" :: rest => (true, rest)
    | _ => (has given "ignore-environment", operands)
  let removed := given.filterMap fun option => if option.key = "unset" then option.value else none
  for name in removed do
    if name.isEmpty || name.toList.contains '=' then
      Work.refuse 125 ("cannot unset " ++ Quotation.inQuotes name ++ ": " ++ OsError.numberText 22)
  let kept := if empty then [] else
    process.definitions.filter fun text => !removed.contains (definedName text)
  let added := operands.takeWhile fun text => text.toList.contains '='
  let words := operands.drop added.length
  let definitions := added.foldl (fun definitions text => define text definitions) kept
  let directory? := value? given "chdir"
  if has given "null" && !words.isEmpty then
    Work.misuse 125 "cannot specify --null (-0) with command"
  if directory?.isSome && words.isEmpty then
    Work.misuse 125 "must specify command with --chdir (-C)"
  if words.isEmpty then
    definitions.forM fun text => Work.say (text ++ lineEnd given "null")
    return .exited 0
  else
    let directory ←
      match directory? with
      | none => pure process.directory
      | some path =>
        match ← Work.look fun files directory => files.find directory path with
        | .ok (place, .directory) => pure place
        | result =>
          let error : OsError := match result with
            | .error error => error
            | .ok _ => .notDirectory
          Work.refuse 125 ("cannot change directory to " ++ Quotation.inQuotes path ++ ": " ++
            Work.reason error)
    become launch { process with definitions, directory } words

/-- Runs a program that is not to end with its terminal. -/
def nohup : Starter := fun launch args => do
  let (_, words) ← options 125 [] args false
  let words ← needOperand 125 "operand" words
  become launch { (← Work.process) with unnoticed := 1 :: (← Work.process).unnoticed } words

def timeout : Starter := fun launch args => do
  let (given, operands) ← options 125 [
    .long "foreground", .both 'k' "kill-after" .required, .long "preserve-status",
    .both 's' "signal" .required, .both 'v' "verbose"] args false
  match operands with
  | [] => Work.misuse 125 "missing operand"
  | [_] => Work.misuse 125 "missing operand"
  | text :: words =>
    match duration? text with
    | none => Work.misuse 125 ("invalid time interval " ++ Quotation.between text)
    | some limit =>
      let before ← Work.ask Machine.clock
      match ← runChild launch (← Work.process).channels words with
      | .error error =>
        Work.complain ("failed to run command " ++ Quotation.between (words.headD "") ++ ": " ++
          Work.reason error)
        return .exited (startCode error)
      | .ok status =>
        let after ← Work.ask Machine.clock
        if limit ≠ 0 && before + limit < after then
          Work.change fun machine => { machine with clock := before + limit }
          return if has given "preserve-status" then .killed 15 else .exited 124
        else return status

/-- What is wrong with the words that are read for arguments. -/
inductive OpenQuote where
  | single
  | double
  deriving DecidableEq, Repr

/-- Splits a text into arguments, at blanks that no quote or backslash hides. The word that grows
comes first, unless there is none. -/
def splitArguments : Option (List Char) → Option Char → List Char → Except OpenQuote (List String)
  | word, none, [] => .ok ((word.map fun chars => String.ofList chars.reverse).toList)
  | _, some quote, [] => .error (if quote = '"' then .double else .single)
  | word, some quote, c :: rest =>
    if c = quote then splitArguments word none rest
    else if c = '\n' then .error (if quote = '"' then .double else .single)
    else splitArguments (some (c :: word.getD [])) (some quote) rest
  | word, none, '\\' :: c :: rest => splitArguments (some (c :: word.getD [])) none rest
  | word, none, c :: rest =>
    if c = '"' || c = '\'' then splitArguments (some (word.getD [])) (some c) rest
    else if c = ' ' || c = '\t' || c = '\n' then
      match word with
      | none => splitArguments none none rest
      | some chars =>
        (splitArguments none none rest).map (String.ofList chars.reverse :: ·)
    else splitArguments (some (c :: word.getD [])) none rest

/-- Groups of so many texts. The fuel is the number of texts. -/
def groupsOf (size : Nat) : Nat → List String → List (List String)
  | 0, _ => []
  | fuel + 1, texts =>
    if texts.isEmpty then []
    else texts.take size :: groupsOf size fuel (texts.drop size)

/-- A text in which each mark is replaced. The fuel is the length of the text. -/
def substituted (mark value : List Char) : Nat → List Char → List Char
  | 0, text => text
  | _, [] => []
  | fuel + 1, c :: rest =>
    if !mark.isEmpty && mark.isPrefixOf (c :: rest) then
      value ++ substituted mark value fuel ((c :: rest).drop mark.length)
    else c :: substituted mark value fuel rest

def commandLines (given : List Given) (words : List String) (read : List String) :
    List (List String) :=
  match value? given "replace" with
  | some mark =>
    read.map fun value => words.map fun word =>
      String.ofList (substituted mark.toList value.toList (word.length + 1) word.toList)
  | none =>
    let size := ((value? given "max-args").bind count?).getD read.length
    let groups := groupsOf (max size 1) read.length read
    let groups := if groups.isEmpty && !has given "no-run-if-empty" then [[]] else groups
    groups.map (words ++ ·)

def runLines (launch : Launch) (shown : Bool) : List (List String) → Nat → Work Nat
  | [], code => return code
  | words :: rest, code => do
    if shown then Work.write 2 (String.intercalate " " (words.map Quotation.forShell) ++ "\n")
    let others := (← Work.process).channels.filter fun entry => entry.1 != 0
    match ← runChild launch ((0, .nothing) :: others) words with
    | .error error =>
      Work.complain (words.headD "" ++ ": " ++ Work.reason error)
      return startCode error
    | .ok status =>
      if status.exitCode? = some 255 then
        Work.complain (words.headD "" ++ ": exited with status 255; aborting")
        return 124
      else if let some signal := status.signal? then
        Work.complain (words.headD "" ++ ": terminated by signal " ++ toString signal)
        return 125
      else
        runLines launch shown rest (if status.exitCode? = some 0 then code else 123)

/-- Runs a program with arguments that are read from the standard input. -/
def xargs : Starter := fun launch args => do
  let (given, words) ← options 1 [
    .both '0' "null", .both 'n' "max-args" .required, .both 'I' "replace" .required,
    .both 'r' "no-run-if-empty", .both 't' "verbose", .both 'd' "delimiter" .required,
    .both 'L' "max-lines" .required, .both 'P' "max-procs" .required] args false
  let words := if words.isEmpty then ["echo"] else words
  let text := (← Work.input).toOption.getD ""
  let separator? :=
    if has given "null" then some '\x00'
    else (value? given "delimiter").bind fun text =>
      if text = "\\n" then some '\n' else text.toList.head?
  let read : Except OpenQuote (List String) :=
    match separator? with
    | some separator => .ok ((lines separator text).map String.ofList)
    | none =>
      if has given "replace" then
        .ok ((lines '\n' text).filterMap fun line =>
          let line := line.dropWhile fun c => c = ' ' || c = '\t'
          if line.isEmpty then none else some (String.ofList line))
      else splitArguments none none text.toList
  match read with
  | .error quote =>
    let name := if quote = .double then "double" else "single"
    Work.complain ("unmatched " ++ name ++
      " quote; by default quotes are special to xargs unless you use the -0 option")
    return .exited 1
  | .ok read =>
    let code ← runLines launch (has given "verbose") (commandLines given words read) 0
    return .exited code

end ToolGate.Host.Utility
