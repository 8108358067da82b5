import ToolGate.Host.Numeral
import ToolGate.Host.Utility.Options

/-!
The programs of the host that create what does not exist yet: files and directories.
-/

namespace ToolGate.Host

namespace Utility

/-- Whether a text says when something happened. Times are not kept, so that nothing more of it is
needed. -/
def isDate (text : String) : Bool :=
  text.isEmpty || text.any Char.isDigit || ["now", "today", "yesterday", "tomorrow"].contains text

/-- Whether a text says in digits when something happened. -/
def isStamp (text : String) : Bool :=
  let digits := text.toList.takeWhile Char.isDigit
  let rest := text.toList.drop digits.length
  let seconds := rest.isEmpty ||
    (rest.head? = some '.' && rest.length = 3 && rest.tail.all Char.isDigit)
  [8, 10, 12].contains digits.length && seconds

/-- Where a file is touched: it comes into being unless it exists already or is not wanted. -/
def touchOne (wanted : Bool) (follow : Bool) (path : String) : Work Nat := do
  let settled : Except OsError Unit ←
    if wanted && follow then
      match ← Work.save path "" .update with
      | .error .isDirectory => pure (.ok ())
      | result => pure result
    else pure (.ok ())
  match settled with
  | .error error =>
    Work.blame "cannot touch" path error
    return 1
  | .ok () =>
    match ← Work.look fun files directory => files.look directory path follow with
    | .ok _ => return 0
    | .error error =>
      if !wanted && error = .notFound then return 0
      else
        Work.blame "setting times of" path error
        return 1

def touch : Utility := fun args => do
  let (given, paths) ← options 1 [
    .short 'a', .both 'c' "no-create", .both 'd' "date" .required, .short 'f',
    .both 'h' "no-dereference", .short 'm', .both 'r' "reference" .required, .short 't' .required,
    .long "time" .required] args
  match value? given "reference" with
  | some path =>
    if let .error error ← Work.look fun files directory => files.find directory path then
      Work.blame "failed to get attributes of" path error
      throw 1
  | none => pure ()
  let wrong := ((value? given "date").toList.filter fun text => !isDate text) ++
    (value? given "t").toList.filter fun text => !isStamp text
  if let text :: _ := wrong then
    Work.refuse 1 ("invalid date format " ++ Quotation.between text)
  let paths ← needOperand 1 "file operand" paths
  Work.forAll paths fun path =>
    if path = "-" then return 0
    else touchOne (!has given "no-create") (!has given "no-dereference") path

/-- Whether a text describes the permissions of a file, as octal digits or as changes. -/
def isMode (text : String) : Bool :=
  let isChange (clause : List Char) : Bool :=
    let actions := clause.dropWhile ['u', 'g', 'o', 'a'].contains
    actions.head?.any ['+', '-', '='].contains &&
      actions.all ['+', '-', '=', 'r', 'w', 'x', 'X', 's', 't', 'u', 'g', 'o'].contains
  let isOctal := !text.isEmpty && text.all fun c => '0' ≤ c && c ≤ '7'
  if isOctal then (Numeral.readDigits 8 0 text.toList).1 ≤ 0o7777
  else (text.toList.splitOnP (· = ',')).all isChange

def tellCreated (path : String) : Work Unit := do
  Work.say ((← Work.name) ++ ": created directory " ++ Quotation.inQuotes path ++ "\n")

def createDirectory (telling : Bool) (path : String) : Work (Option OsError) := do
  match ← Work.look fun files directory => files.makeDirectory directory path with
  | .ok files =>
    Work.edit fun _ => files
    if telling then tellCreated path
    return none
  | .error error => return some error

def refuseDirectory (path : String) (error : OsError) : Work Nat := do
  Work.blame "cannot create directory" path error
  return 1

/-- The beginnings of a path that end where a name ends, after what has been passed already. -/
def beginnings (passed : List Char) : List Char → List String
  | [] => []
  | c :: rest =>
    let passed := passed ++ [c]
    if c ≠ '/' && rest.head?.all (· = '/') then String.ofList passed :: beginnings passed rest
    else beginnings passed rest

/-- Creates the directories on the way to one. Of two reasons why there is no way, the one that a
link leads nowhere is the lesser one. -/
def createWay (telling : Bool) : List String → Work (Option (String × OsError))
  | [] => return none
  | path :: rest => do
    let name := (FileTree.pieces path).getLastD ""
    let refused ← if name = "." || name = ".." then pure none else createDirectory telling path
    match ← Work.look fun files directory => files.find directory path, refused with
    | .ok (_, .directory), _ => createWay telling rest
    | .ok _, _ => return some (path, .notDirectory)
    | .error error, some obstacle =>
      return some (path, if error = .notFound then obstacle else error)
    | .error error, none => return some (path, error)

/-- Creates a directory with all that are on the way. It may exist already. -/
def createAll (telling : Bool) (path : String) : Work Nat := do
  match ← createWay telling (beginnings [] path.toList).dropLast with
  | some (path, error) => refuseDirectory path error
  | none =>
    match ← createDirectory telling path with
    | none => return 0
    | some error =>
      match ← Work.look fun files directory => files.find directory path with
      | .ok (_, .directory) => return 0
      | _ => refuseDirectory path error

def mkdir : Utility := fun args => do
  let (given, paths) ← options 1 [
    .both 'm' "mode" .required, .both 'p' "parents", .both 'v' "verbose", .short 'Z',
    .long "context" .optional] args
  let paths ← needOperand 1 "operand" paths
  match value? given "mode" with
  | some mode =>
    unless isMode mode do Work.refuse 1 ("invalid mode " ++ Quotation.between mode)
  | none => pure ()
  let telling := has given "verbose"
  Work.forAll paths fun path => do
    if has given "parents" then createAll telling path
    else
      match ← createDirectory telling path with
      | none => return 0
      | some error => refuseDirectory path error

end Utility

end ToolGate.Host
