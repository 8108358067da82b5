import ToolGate.Host.Builtin
import ToolGate.Host.Finding

/-!
The commands of the shell that set aliases and say what names stand for.
-/

namespace ToolGate.Host.Builtin

def aliasRows : Nat := 39

/-- How many rows the table of programs that have been found has. -/
def hashRows : Nat := 31

def setAliases : Builtin := fun args => do
  if args.isEmpty then
    let rows := (← get).aliases.mergeSort fun a b => rowOf aliasRows a.1 ≤ rowOf aliasRows b.1
    rows.forM fun entry => Shell.say (Finding.aliasText entry)
    return 0
  else
    let statuses ← args.mapM fun arg => do
      match definition arg with
      | (name, some text) =>
        if name.isEmpty then display arg
        else
          Shell.adjust fun context =>
            if (context.aliases.lookup name).isSome then
              { context with
                aliases := context.aliases.map fun entry =>
                  if entry.1 = name then (name, text) else entry }
            else { context with aliases := context.aliases ++ [(name, text)] }
          return 0
      | (name, none) => display name
    return statuses.foldl max 0
where
  /-- Shows an alias. -/
  display (name : String) : Shell Nat := do
    match (← get).aliases.lookup name with
    | some text =>
      Shell.say (Finding.aliasText (name, text))
      return 0
    | none =>
      Shell.write 2 ("alias: " ++ name ++ " not found\n")
      return 1

def unsetAliases : Builtin := fun args => do
  let (given, names) ← options "a" "" args
  if !given.isEmpty then
    Shell.adjust fun context => { context with aliases := [] }
    return 0
  else
    let statuses ← names.mapM fun name => do
      if ((← get).aliases.lookup name).isSome then
        Shell.adjust fun context =>
          { context with aliases := context.aliases.filter fun entry => entry.1 != name }
        return 0
      else
        Shell.write 2 ("unalias: " ++ name ++ " not found\n")
        return 1
    return statuses.foldl max 0

/-- Looks for programs ahead of time, or shows those that have been found. -/
def hash : Builtin := fun args => do
  let (given, names) ← options "r" "" args
  if !given.isEmpty then
    Shell.adjust fun context => { context with hashed := [] }
    return 0
  else if names.isEmpty then
    let rows := (← get).hashed.mergeSort fun a b => rowOf hashRows a.1 ≤ rowOf hashRows b.1
    rows.forM fun entry => Shell.say entry.2
    return 0
  else
    let statuses ← names.mapM fun name => do
      let session ← get
      match Finding.find session true (Finding.searchList session.toContext) name with
      | .missing error =>
        Shell.complain (name ++ ": " ++ Finding.reason error)
        return 1
      | .program path =>
        Finding.remember name path
        return 0
      | _ => return 0
    return statuses.foldl max 0

def type : Builtin := fun args => do
  return (← args.mapM (Finding.describe true none)).foldl max 0

/-- Says what a name stands for, in words or briefly. Other uses of the command are no matter of its
own. -/
def command : Builtin := fun args => do
  let (given, names) ← options "pvV" "" args
  let list := if isGiven 'p' given then some Loading.commandList else none
  match names with
  | name :: _ =>
    if isGiven 'v' given || isGiven 'V' given then
      Finding.describe (isGiven 'V' given) list name
    else return 0
  | [] => return 0

end ToolGate.Host.Builtin
