import ToolGate.Host.Builtin
import ToolGate.Host.Permission
import ToolGate.Host.Loading

/-!
The commands of the shell that change and show the working directory, and the permissions that new
files do not get. The shell remembers by which path it came to a directory, so that a step up leads
back over a link.
-/

namespace ToolGate.Host.Builtin

/-- The beginning of an absolute path. Two slashes are kept, three are one. -/
def rootOf (path : List Char) : List Char :=
  match path with
  | '/' :: '/' :: c :: _ => if c = '/' then ['/'] else ['/', '/']
  | ['/', '/'] => ['/', '/']
  | _ => ['/']

/-- The path to which another one leads from the path of a directory, read as it is written. -/
def logical? (here path : String) : Option String :=
  let isAbsolute := path.startsWith "/"
  if !isAbsolute && here.isEmpty then none
  else
    let start := if isAbsolute then [] else (FileTree.pieces here).filter (· != "")
    let step (names : List String) (piece : String) : List String :=
      if piece = "" || piece = "." then names
      else if piece = ".." then names.dropLast
      else names ++ [piece]
    let names := (FileTree.pieces path).foldl step start
    let root := rootOf (if isAbsolute then path else here).toList
    some (String.ofList root ++ String.intercalate "/" names)

/-- Whether a path says itself where it starts: at the root, at the working directory, or above. -/
def isAnchored (path : String) : Bool :=
  match path.toList with
  | '/' :: _ | ['.'] | '.' :: '/' :: _ | ['.', '.'] | '.' :: '.' :: '/' :: _ => true
  | _ => false

def physicalPath : Shell String := do
  let session ← get
  match session.machine.files.node? session.directory with
  | some _ => return session.directory.text
  | none =>
    Shell.complain ("getcwd() failed: " ++ OsError.numberText 2)
    return ""

/-- Changes the working directory by a path. The result says whether that was possible. -/
def enter (physical : Bool) (path : String) : Shell Bool := do
  let session ← get
  let logical := if physical then none else logical? session.path path
  match session.machine.files.find session.directory (logical.getD path) with
  | .ok (place, .directory) =>
    Shell.adjust fun context => { context with directory := place }
    let now ← logical.elim physicalPath pure
    setPath "OLDPWD" session.path
    setPath "PWD" now
    Shell.adjust fun context => { context with path := now }
    return true
  | _ => return false
where
  /-- Sets a variable that programs get. -/
  setPath (name value : String) : Shell Unit := do
    Shell.assign name value
    Shell.adjust fun context =>
      match context.bindings.lookup name with
      | some entry => context.put name { entry with exported := true }
      | none => context

/-- Changes the working directory. A path without an anchor is looked for in a list of directories
first. -/
def cd : Builtin := fun args => do
  let (given, rest) ← options "LP" "" args
  let physical := (given.getLast?.map Prod.fst) = some 'P'
  let session ← get
  let back := rest.head? = some "-"
  let target :=
    match rest with
    | [] => (session.valueOf? "HOME").getD ""
    | arg :: _ => if back then (session.valueOf? "OLDPWD").getD "" else arg
  let list := if isAnchored target then "" else (session.valueOf? "CDPATH").getD ""
  let found? := (Loading.entries list).find? fun entry =>
    match session.machine.files.find session.directory (Loading.candidate entry target) with
    | .ok (_, .directory) => true
    | _ => false
  let entry := found?.getD ""
  let path := Loading.candidate entry target
  if ← enter physical (if path.isEmpty then "." else path) then
    if back || !entry.isEmpty then Shell.say (← get).path
    return 0
  else Shell.refuse ("can't cd to " ++ target)

/-- Writes the working directory, on demand with links followed. -/
def pwd : Builtin := fun args => do
  let (given, _) ← options "LP" "" args
  if (given.getLast?.map Prod.fst) = some 'P' then Shell.say (← physicalPath)
  else Shell.say (← get).path
  return 0

/-- Shows or changes the permissions that new files do not get. -/
def umask : Builtin := fun args => do
  let (given, rest) ← options "S" "" args
  let mask := (← get).mask
  match rest with
  | [] =>
    let digits := [mask / 512, mask / 64, mask / 8, mask].map fun n => Char.ofNat (48 + n % 8)
    Shell.say (if isGiven 'S' given then Permission.maskText mask else String.ofList digits)
  | text :: _ =>
    if (text.toList.headD ' ').isDigit then
      if !text.toList.all fun c => '0' ≤ c && c < '8' then
        Shell.refuse ("Illegal number: " ++ text)
      let value := (Numeral.readDigits 8 0 text.toList).1 % 0o1000
      Shell.adjust fun context => { context with mask := value }
    else
      let mode := 0o777 - mask
      match Permission.change mode text.length mode 0 text.toList with
      | some mode => Shell.adjust fun context => { context with mask := 0o777 - mode }
      | none => Shell.refuse ("Illegal mode: " ++ text)
  return 0

end ToolGate.Host.Builtin
