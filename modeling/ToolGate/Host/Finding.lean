import ToolGate.Host.Loading
import ToolGate.Host.Quotation
import ToolGate.Host.Session

/-!
What a name stands for where a command begins: a function, a command of the shell, or a program that
is looked for in a list of directories.
-/

namespace ToolGate.Host

/-- What the shell finds under the name of a command. -/
inductive Finding where
  | function (body : Script.Command)
  | builtin
  | program (path : String)
  | missing (error : OsError)

namespace Finding

def isBuiltin (name : String) : Bool :=
  Script.specialCommands.contains name || Script.regularCommands.contains name

def searchList (context : Context) : String := (context.valueOf? "PATH").getD ""

/-- The reason that a message gives for a program that cannot be started. -/
def reason (error : OsError) : String :=
  if error = .notFound ∨ error = .notDirectory then "not found"
  else
    match error with
    | .number value => OsError.numberText value
    | error => error.message

/-- What the shell finds under a name. Functions can be left out. -/
def find (session : Session) (functions : Bool) (list name : String) : Finding :=
  if name.toList.contains '/' then .program name
  else
    match (if functions then session.functions.lookup name else none) with
    | some body => .function body
    | none =>
      if isBuiltin name then .builtin
      else
        match Loading.search session.machine.files session.directory list name with
        | .ok path => .program path
        | .error error => .missing error

/-- Remembers the path of a program that has been found by its name. -/
def remember (name path : String) : Shell Unit :=
  Shell.adjust fun context =>
    if name.toList.contains '/' || (context.hashed.lookup name).isSome then context
    else { context with hashed := context.hashed ++ [(name, path)] }

def aliasText (entry : String × String) : String :=
  entry.1 ++ "=" ++ Quotation.inScript entry.2

/-- Writes what the shell finds under a name: in words, or as briefly as it can be used. `list`
takes the place of the usual list of directories. -/
def describe (inWords : Bool) (list : Option String) (name : String) : Shell Nat := do
  let session ← get
  let say (words brief : String) : Shell Nat := do
    Shell.say (if inWords then name ++ " is " ++ words else brief)
    return 0
  if Script.keywords.contains name then say "a shell keyword" name
  else
    match session.aliases.lookup name with
    | some text => say ("an alias for " ++ text) ("alias " ++ aliasText (name, text))
    | none =>
      let tracked := list.isNone && (session.hashed.lookup name).isSome
      match find session true (list.getD (searchList session.toContext)) name with
      | .function _ => say "a shell function" name
      | .builtin =>
        let isSpecial := Script.specialCommands.contains name
        say (if isSpecial then "a special shell builtin" else "a shell builtin") name
      | .program path =>
        let isThere := !name.toList.contains '/' ||
          (session.machine.files.find session.directory name).toBool
        if isThere then say ((if tracked then "a tracked alias for " else "") ++ path) path
        else nothing
      | .missing _ => nothing
where
  /-- Says that nothing is found. -/
  nothing : Shell Nat := do
    if inWords then Shell.say (name ++ ": not found")
    return 127

end Finding

end ToolGate.Host
