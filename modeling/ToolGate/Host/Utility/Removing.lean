import ToolGate.Host.Utility.Options

/-!
The programs of the host that remove files and directories.
-/

namespace ToolGate.Host.Utility

/-- Removes a directory in which nothing is. -/
def removeDirectory (path : String) : Work (Except OsError Unit) := do
  let trimmed := FileTree.withoutEndSlashes path
  let name := (FileTree.pieces trimmed).getLastD ""
  match ← Work.look fun files directory => files.look directory trimmed false with
  | .error error => return .error error
  | .ok (place, .directory) =>
    if place.isEmpty then return .error (.number 16)
    else if name = "." then return .error (.number 22)
    else if name = ".." || !(← Work.ask fun machine => machine.files.names place).isEmpty then
      return .error (.number 39)
    else
      Work.edit (·.remove place)
      return .ok ()
  | .ok _ => return .error .notDirectory

/-- Whether a path with a slash at its end leads to a directory by a link. -/
def isSlashedLink (files : FileTree) (directory : Place) (path : String) : Bool :=
  path.endsWith "/" &&
    match files.look directory (FileTree.withoutEndSlashes path) false with
    | .ok (_, .link _) =>
      match files.find directory path with
      | .ok (_, .directory) => true
      | .error error => error ≠ .notDirectory
      | _ => false
    | _ => false

structure Clearing where
  telling : Bool
  /-- Directories that are not empty may stay without a complaint. -/
  lenient : Bool

def Clearing.tell (clearing : Clearing) (path : String) : Work Unit := do
  if clearing.telling then
    Work.say ((← Work.name) ++ ": removing directory, " ++ Quotation.inQuotes path ++ "\n")

/-- Removes the directories above one that has been removed, the nearest first. -/
def Clearing.goUp (clearing : Clearing) : List String → Work Nat
  | [] => return 0
  | path :: rest => do
    clearing.tell path
    match ← removeDirectory path with
    | .ok () => clearing.goUp rest
    | .error error =>
      if clearing.lenient && error = .number 39 then return 0
      else
        Work.blame "failed to remove directory" path error
        return 1

/-- The paths above a path, the nearest first. -/
def pathsAbove (path : String) : List String :=
  let isSlash (c : Char) : Bool := c = '/'
  let chars := (FileTree.withoutEndSlashes path).toList
  let cuts := ((List.range chars.length).filter fun count =>
    chars[count]?.any isSlash && chars[count - 1]?.any (!isSlash ·)).reverse
  cuts.map fun count => String.ofList (chars.take count)

def rmdir : Utility := fun args => do
  let (given, paths) ← options 1 [
    .both 'p' "parents", .long "ignore-fail-on-non-empty", .both 'v' "verbose"] args
  let paths ← needOperand 1 "operand" paths
  let clearing : Clearing := ⟨has given "verbose", has given "ignore-fail-on-non-empty"⟩
  Work.forAll paths fun path => do
    clearing.tell path
    match ← removeDirectory path with
    | .ok () => if has given "parents" then clearing.goUp (pathsAbove path) else return 0
    | .error error =>
      if clearing.lenient && error = .number 39 then return 0
      else if ← Work.look fun files directory => isSlashedLink files directory path then
        Work.complain ("failed to remove " ++ Quotation.inQuotes path ++
          ": Symbolic link not followed")
      else Work.blame "failed to remove" path error
      return 1

/-- How often a program asks before it removes something. -/
inductive Asking where
  | never
  | once
  | always
  deriving DecidableEq, Repr

structure Removal where
  /-- What does not exist may be missing. -/
  forced : Bool
  /-- Directories are removed with all that is below them. -/
  below : Bool
  /-- Directories are removed if they are empty. -/
  empty : Bool
  telling : Bool
  asking : Asking

def fileKind : Node → String
  | .directory => "directory"
  | .link _ => "symbolic link"
  | .file content _ => if content.isEmpty then "regular empty file" else "regular file"
  | .program _ => "regular file"
  | .sink | .channel _ => "character special file"

/-- Asks a question that is answered by a line of the standard input. -/
def isGranted (question : String) : Work Bool := do
  Work.write 2 ((← Work.name) ++ ": " ++ question ++ "? ")
  let answer ← Work.line
  return answer.startsWith "y" || answer.startsWith "Y"

namespace Removal

/-- Asks whether something may be done to a file. -/
def allows (removal : Removal) (deed path : String) (node : Node) : Work Bool := do
  if removal.asking = .always then
    let kind := if deed = "descend into" then "directory" else fileKind node
    isGranted (deed ++ " " ++ kind ++ " " ++ Quotation.inQuotes path)
  else return true

def removeEntry (removal : Removal) (path : String) (place : Place) (node : Node) :
    Work Bool := do
  if node = .directory && !(← Work.ask fun machine => machine.files.names place).isEmpty then
    Work.blame "cannot remove" path (.number 39)
    return false
  else
    Work.edit (·.remove place)
    if removal.telling then
      let kind := if node = .directory then "directory " else ""
      Work.say ("removed " ++ kind ++ Quotation.inQuotes path ++ "\n")
    return true

/-- Removes a file, or a directory with all that is below it. The fuel is the depth of the tree. -/
def removeTree (removal : Removal) : Nat → String → Place → Work Bool
  | 0, _, _ => return false
  | fuel + 1, path, place => do
    let node ← Work.ask fun machine => (machine.files.node? place).getD .directory
    let names ← Work.ask fun machine => machine.files.names place
    if node = .directory && !names.isEmpty then
      if ← removal.allows "descend into" path node then
        let start := if path.endsWith "/" then path else path ++ "/"
        let done ← names.mapM fun name =>
          removal.removeTree fuel (start ++ name) (place ++ [name])
        if ← removal.allows "remove" path node then
          return (← removal.removeEntry path place node) && done.all id
        else return done.all id
      else return true
    else if ← removal.allows "remove" path node then removal.removeEntry path place node
    else return true

/-- Why a directory must not be removed, if it is one of those that a program protects. -/
def protection? (path : String) (place : Place) : Option (List String) :=
  let name := (FileTree.pieces (FileTree.withoutEndSlashes path)).getLastD ""
  if name = "." || name = ".." then
    some ["refusing to remove '.' or '..' directory: skipping " ++ Quotation.inQuotes path]
  else if place.isEmpty then
    let place := if path = "/" then "'/'" else Quotation.inQuotes path ++ " (same as '/')"
    some ["it is dangerous to operate recursively on " ++ place,
      "use --no-preserve-root to override this failsafe"]
  else none

def removePath (removal : Removal) (path : String) : Work Nat := do
  match ← Work.look fun files directory => files.look directory path false with
  | .error error =>
    if removal.forced && (error = .notFound || error = .notDirectory) then return 0
    else
      Work.blame "cannot remove" path error
      return 1
  | .ok (place, node) =>
    let isEmpty := (← Work.ask fun machine => machine.files.names place).isEmpty
    if node = .directory && !removal.below && !(removal.empty && isEmpty) then
      Work.blame "cannot remove" path (if removal.empty then .number 39 else .isDirectory)
      return 1
    else
      match if node = .directory then protection? path place else none with
      | some lines =>
        lines.forM Work.complain
        return 1
      | none =>
        if ← Work.look fun files directory => isSlashedLink files directory path then
          Work.blame "cannot remove" path .notDirectory
          return 1
        else
          let depth ← Work.ask fun machine => machine.files.nodes.length
          return if ← removal.removeTree (depth + 1) path place then 0 else 1

end Removal

/-- How often to ask, and whether missing files are passed over, by an option. -/
def askingOf : Given → Work (List (Asking × Bool))
  | ⟨"force", _⟩ => return [(.never, true)]
  | ⟨"i", _⟩ => return [(.always, false)]
  | ⟨"I", _⟩ => return [(.once, false)]
  | ⟨"interactive", value⟩ => do
    let asking ← choose 1 "interactive" (value.getD "always") [
      (["never", "no", "none"], .never), (["once"], .once), (["always", "yes"], .always)]
    return [(asking, false)]
  | _ => return []

def removalForms : List Form := [
  .short 'd', .both 'f' "force", .short 'i', .short 'I', .long "interactive" .optional,
  .long "one-file-system", .long "no-preserve-root", .long "preserve-root" .optional,
  .both 'r' "recursive", .short 'R', .both 'v' "verbose", .long "dir"]

/-- Hints at how to remove a file whose name was taken for options. -/
def hintAtFile (args : List String) : Work Unit := do
  let isNamed (arg : String) : Work Bool :=
    Work.look fun files directory => (files.look directory arg false).toBool
  match ← (args.filter fun arg => arg.startsWith "-" && arg.length > 1).filterM isNamed with
  | arg :: _ =>
    Work.mutter ("Try '" ++ (← Work.name) ++ " " ++ Quotation.forShell ("./" ++ arg) ++
      "' to remove the file " ++ Quotation.inQuotes arg ++ ".")
  | [] => return ()

def rm : Utility := fun args => do
  if let .error misuse := readOptions (removalForms ++ commonForms) true [] [] args then
    Work.complain misuse.message
    hintAtFile args
    Work.hint 1
  let (given, paths) ← options 1 removalForms args
  let (asking, forced) := ((← given.mapM askingOf).flatten.getLast?).getD (.never, false)
  let below := has given "recursive" || has given "R"
  let removal : Removal := {
    forced, below, asking
    empty := has given "d" || has given "dir"
    telling := has given "verbose" }
  if paths.isEmpty && forced then return 0
  else
    let paths ← needOperand 1 "operand" paths
    let asked := asking = .once && (below || 3 < paths.length)
    let count := toString paths.length ++ (if paths.length = 1 then " argument" else " arguments")
    let granted ←
      if asked then isGranted ("remove " ++ count ++ (if below then " recursively" else ""))
      else pure true
    if granted then Work.forAll paths removal.removePath else return 0

end ToolGate.Host.Utility
