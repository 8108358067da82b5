import ToolGate.Host.Builtin.Table
import ToolGate.Host.Execution.Programs
import ToolGate.Host.Execution.Redirecting

/-!
Simple commands. The first words decide what is called: a function, a command of the shell or a
program. Redirections come next, then assignments, and then the call. Assignments stay only where
nothing but a special command of the shell follows them.
-/

namespace ToolGate.Host.Execution

open Script

def substitute (engine : Engine) : Expansion.Substitute := fun command => do
  let session ← get
  let (channel, machine) := session.machine.channel ""
  set { session with machine }
  let status ← apart engine do
    Shell.adjust fun context => { context.connect 1 channel with guarded := false }
    engine.perform command
  let substituted ← report status
  let (text, machine) := (← get).machine.drain channel
  modify fun session => { session with machine }
  Shell.adjust fun context => { context with substituted }
  return text

/-- Words on their way: those that have been expanded, and those that have not. -/
structure Reading where
  texts : List String
  rest : List Word

/-- Expands words until there are more texts than a number, or no words. -/
def expandBeyond (engine : Engine) (count : Nat) (texts : List String) :
    List Word → Shell Reading
  | [] => return { texts, rest := [] }
  | word :: rest => do
    if count < texts.length then return { texts, rest := word :: rest }
    else
      let more ← Expansion.expandWord (substitute engine) word
      expandBeyond engine count (texts ++ more) rest

/-- Looks for the name of the command that `command` calls, from some place on among the texts. The
result also says whether only the usual directories are searched. There is none where `command` does
not call anything. The fuel bounds the number of options. -/
def passOptions (engine : Engine) : Nat → Nat → Bool → Reading →
    Shell (Option (Nat × Bool) × Reading)
  | 0, _, _, reading => return (none, reading)
  | fuel + 1, place, usual, reading => do
    let reading ← expandBeyond engine place reading.texts reading.rest
    match reading.texts[place]?.map String.toList with
    | none => return (none, reading)
    | some ['-', '-'] =>
      let reading ← expandBeyond engine (place + 1) reading.texts reading.rest
      return (if place + 1 < reading.texts.length then some (place + 1, usual) else none, reading)
    | some ('-' :: letter :: letters) =>
      if (letter :: letters).all (· = 'p') then passOptions engine fuel (place + 1) true reading
      else return (none, reading)
    | some _ => return (some (place, usual), reading)

/-- What the words of a simple command call. -/
structure Call where
  /-- All texts, and the place of the name among them. -/
  texts : List String
  place : Nat := 0
  /-- Whether the name can be that of a function. -/
  functions : Bool := true
  /-- Whether only the usual directories are searched. -/
  usual : Bool := false
  /-- Whether the first name is that of a command of the shell, and of a special one. -/
  special : Option Bool := none

def callsBuiltin (context : Context) (functions : Bool) (name : String) : Bool :=
  Finding.isBuiltin name && !(functions && (context.functions.lookup name).isSome)

/-- Finds what is called, over any number of uses of `command`, which the fuel bounds. -/
def findCall (engine : Engine) : Nat → Call → List Word → Shell (Call × List Word)
  | 0, call, rest => return (call, rest)
  | fuel + 1, call, rest => do
    let name := call.texts.getD call.place ""
    if !callsBuiltin (← get).toContext call.functions name then return (call, rest)
    else
      let special := call.special.getD (specialCommands.contains name)
      let call := { call with special := some special }
      if name != "command" then return (call, rest)
      else
        let reading := { texts := call.texts, rest }
        match ← passOptions engine roundLimit (call.place + 1) call.usual reading with
        | (none, reading) => return ({ call with texts := reading.texts }, reading.rest)
        | (some (place, usual), reading) =>
          let call := { call with texts := reading.texts, place, functions := false, usual }
          findCall engine fuel call reading.rest

/-- Expands a word that may be an assignment for the command that is called. -/
def expandArgument (engine : Engine) (assigning : Bool) (word : Word) : Shell (List String) :=
  match (if assigning then assignment? word else none) with
  | some (name, value) => do
    return [name ++ "=" ++ (← Expansion.expandValue (substitute engine) value)]
  | none => Expansion.expandWord (substitute engine) word

def expandCall (engine : Engine) (words : List Word) : Shell Call := do
  let reading ← expandBeyond engine 0 [] words
  if reading.texts.isEmpty then return { texts := [] }
  else
    let (call, rest) ← findCall engine roundLimit { texts := reading.texts } reading.rest
    let name := call.texts.getD call.place ""
    let assigning := call.special.isSome && Builtin.assigning.contains name
    let others ← rest.mapM (expandArgument engine assigning)
    return { call with texts := call.texts ++ others.flatten }

/-- Puts back what a function, or a command with assignments, replaced. -/
def putBack (replaced : List Replaced) : Shell Unit :=
  replaced.forM fun
    | .switches switches => Shell.adjust fun context => { context with switches }
    | .variable name before => do
      Shell.adjust fun context =>
        match before with
        | some value => context.put name value
        | none => context.erase name
      Shell.notice name

def replacing {α : Type} (action : Shell α) : Shell α := do
  Shell.adjust fun context => { context with replaced := [] :: context.replaced }
  Shell.afterwards action do
    match (← get).replaced with
    | frame :: frames =>
      Shell.adjust fun context => { context with replaced := frames }
      putBack frame
    | [] => return

def exportVariable (name : String) : Shell Unit :=
  Shell.adjust fun context =>
    match context.bindings.lookup name with
    | some entry => context.put name { entry with exported := true }
    | none => context

/-- Performs assignments one after the other, so that a later value can use an earlier one. Those
for the time of a command can be taken back. The results are the assignments as texts. -/
def assignAll (engine : Engine) (forCommand exported : Bool) (assignments : List (String × Word)) :
    Shell (List String) :=
  assignments.mapM fun (name, word) => do
    let value ← Expansion.expandValue (substitute engine) word
    if forCommand then Builtin.keep fun context => .variable name (context.bindings.lookup name)
    Shell.assign name value
    if exported then exportVariable name
    return name ++ "=" ++ value

/-- What is written before the words of a command that is shown. -/
def traceLead (engine : Engine) : Shell String := do
  let text := ((← get).valueOf? "PS4").getD ""
  match readTemplate text with
  | some pieces =>
    Shell.adjust fun context => context.switch "xtrace" false
    Shell.afterwards (Expansion.expandText (substitute engine) pieces)
      (Shell.adjust fun context => context.switch "xtrace" true)
  | none => return text

/-- Shows a command before it runs, on a channel that it cannot change. -/
def trace (engine : Engine) (channel : Option Channel) (texts : List String) : Shell Unit := do
  if (← get).has "xtrace" then
    let lead ← traceLead engine
    match channel with
    | some channel =>
      modify fun session =>
        { session with
          machine :=
            session.machine.write channel (lead ++ String.intercalate " " texts ++ "\n") }
    | none => return

def callFunction (engine : Engine) (body : Command) (args : List String) : Shell Nat := do
  let before ← get
  Shell.adjust fun context => { context with arguments := args, loops := 0, scan := {} }
  let result ← caught (engine.perform body)
  Shell.adjust fun context =>
    { context with arguments := before.arguments, loops := before.loops, scan := before.scan }
  match result with
  | .ok status | .error (.returned status) => return status
  | .error stop => throw stop

/-- The path of a file whose commands are performed: the first one with that name in the directories
that are searched. -/
def sourcePath (name : String) : Shell String := do
  let session ← get
  if name.toList.contains '/' then return name
  else
    let candidates := (Loading.entries (Finding.searchList session.toContext)).map fun entry =>
      Loading.candidate entry name
    match candidates.find? (session.machine.files.isFile session.directory) with
    | some path => return path
    | none => Shell.refuse (name ++ ": not found")

def source (engine : Engine) : Builtin := fun args => do
  match ← Builtin.operands args with
  | [] => return 0
  | name :: _ =>
    let path ← sourcePath name
    let session ← get
    let content ←
      match session.machine.files.find session.directory path with
      | .ok (_, .file content _) => pure content
      | .ok _ => pure ""
      | .error error => Shell.refuse ("cannot open " ++ path ++ ": " ++ openReason false error)
    match ← caught (Shell.named path (guarding false (performFile engine content))) with
    | .ok status | .error (.returned status) => return status
    | .error stop => throw stop

def runBuiltin (engine : Engine) (usual : Bool) (name : String) : Builtin := fun args => do
  match name, args with
  | ".", _ => source engine args
  | "eval", _ => do performSource engine (String.intercalate " " (← Builtin.operands args))
  | "exec", program :: args => do
    let context := (← get).toContext
    let list := if usual then Loading.commandList else Finding.searchList context
    becomeProgram engine list program args
  | "exec", [] => return 0
  | "wait", _ => wait engine args
  | _, _ =>
    match Builtin.table.lookup name with
    | some builtin => builtin args
    | none => return 0

/-- Calls a command of the shell. An error in a special one ends the shell; an error in any other
one is a status. -/
def callBuiltin (engine : Engine) (special usual : Bool) (name : String) (args : List String) :
    Shell Nat := do
  let before := (← get).lost
  Shell.adjust fun context => { context with lost := false }
  let action : Shell Nat := do
    let status ← runBuiltin engine usual name args
    if (← get).lost then
      Shell.complain (name ++ ": I/O error")
      return status ||| 1
    else return status
  let result ← caught (Shell.named name action)
  Shell.adjust fun context => { context with lost := before }
  match result with
  | .ok status => return status
  | .error .failure => if special then throw .failure else return 2
  | .error stop => throw stop

def runCall (engine : Engine) (call : Call) (name : String) (args : List String) : Shell Nat := do
  let session ← get
  let list :=
    if call.usual then Loading.commandList else Finding.searchList session.toContext
  match Finding.find session call.functions list name with
  | .function body => callFunction engine body args
  | .builtin => callBuiltin engine (call.special.getD false) call.usual name args
  | .program path =>
    unless call.usual do Finding.remember name path
    runProgram engine path name args
  | .missing error =>
    Shell.complain (name ++ ": " ++ Finding.reason error)
    return 127

def performNameless (engine : Engine) (assignments : List (String × Word))
    (redirections : List Redirection) : Shell Nat := do
  let channel := (← get).channel? 2
  let redirected ← expandRedirections (substitute engine) redirections
  Shell.withChannels do
    if ← redirectAll redirected then
      trace engine channel (← assignAll engine false false assignments)
      return (← get).substituted
    else return 2

def performSimple (engine : Engine) (line : Nat) (assignments : List (String × Word))
    (words : List Word) (redirections : List Redirection) : Shell Nat := do
  Shell.adjust fun context => { context with line, substituted := 0 }
  let call ← expandCall engine words
  match call.texts.drop call.place with
  | [] => performNameless engine assignments redirections
  | name :: args =>
    let isSpecial := call.special.getD false
    let isExec := call.special.isSome && name = "exec"
    let channel := (← get).channel? 2
    let redirected ← expandRedirections (substitute engine) redirections
    let perform : Shell Nat := do
      if ← redirectAll redirected then
        let exported := !isSpecial || (isExec && !args.isEmpty)
        let assigned ← assignAll engine (!isSpecial) exported assignments
        trace engine channel (assigned ++ call.texts)
        runCall engine call name args
      else if isSpecial then throw .failure
      else return 2
    let perform := if isSpecial then perform else replacing perform
    if isExec then perform else Shell.withChannels perform

end ToolGate.Host.Execution
