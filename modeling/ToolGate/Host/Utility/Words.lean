import ToolGate.Host.Condition.Program
import ToolGate.Host.Printing
import ToolGate.Host.Utility.Options

/-!
The programs of the host that only write texts or have a status: what they are asked for stands in
their arguments and their surroundings.
-/

namespace ToolGate.Host.Utility

/-- A program that exits with one code. A single argument can ask for help. -/
def status (name : String) (code : Nat) : Utility := fun args => do
  if args == ["--help"] then Work.say (← Work.usage name)
  return code

def echo : Utility := fun args => do
  Work.say (Escapes.programEcho args)
  return 0

def printf : Utility := fun args => do
  let operands := if args.head? = some "--" then args.tail else args
  match ← needOperand 1 "operand" operands with
  | [] => return 0
  | format :: args =>
    let printed := programPrint format args
    printed.prints.forM fun
      | .text value => Work.say (String.ofList value)
      | .complaint message => Work.complain message
    return printed.status

/-- Checks a condition. In its bracketed form the last argument closes the bracket. -/
def test (bracketed : Bool) : Utility := fun args => do
  if bracketed && args.getLast? != some "]" then Work.refuse 2 "missing ']'"
  else
    let view ← Work.look fun files directory => (⟨files, directory⟩ : Condition.View)
    match Condition.Program.evaluate view (if bracketed then args.dropLast else args) with
    | .ok value => return if value then 0 else 1
    | .error problem => Work.refuse 2 problem.message

/-- Writes variables: the values of those that are named, or all of them. -/
def printenv : Utility := fun args => do
  let (given, names) ← options 2 [.both '0' "null"] args false
  let ending := lineEnd given "null"
  let process ← Work.process
  if names.isEmpty then
    process.definitions.forM fun text => Work.say (text ++ ending)
    return 0
  else
    Work.forAll names fun name => do
      match (if name.toList.contains '=' then none else process.valueOf? name) with
      | some value =>
        Work.say (value ++ ending)
        return 0
      | none => return 1

/-- Whether a path is one that a process can trust to name its working directory. -/
def namesHere (files : FileTree) (directory : Place) (path : String) : Bool :=
  let pieces := FileTree.pieces path
  path.startsWith "/" && !pieces.contains "." && !pieces.contains ".." &&
    match files.find [] path with
    | .ok (place, .directory) => place = directory
    | _ => false

/-- Writes the working directory. Unless it is asked otherwise, links are followed. -/
def pwd : Utility := fun args => do
  let (given, operands) ← options 1 [.both 'L' "logical", .both 'P' "physical"] args
  unless operands.isEmpty do Work.complain "ignoring non-option arguments"
  let path := ((← Work.process).valueOf? "PWD").getD ""
  let trusted ← Work.look fun files directory => namesHere files directory path
  if last? given ["logical", "physical"] = some "logical" && trusted then
    Work.say (path ++ "\n")
    return 0
  else
    match ← Work.look fun files directory => (files.node? directory).map fun _ => directory.text with
    | some text =>
      Work.say (text ++ "\n")
      return 0
    | none => Work.refuse 1 "couldn't find directory entry in '..' with matching i-node"

def timeUnit? : List Char → Option Nat
  | [] | ['s'] => some 1
  | ['m'] => some 60
  | ['h'] => some 3600
  | ['d'] => some 86400
  | _ => none

/-- The nanoseconds in a second. -/
def second : Nat := 1000000000

def duration? (text : String) : Option Nat := do
  let reading := Floating.read .extended text.toList
  let unit ← timeUnit? reading.rest
  if reading.rest.length = text.length then none
  else
    match reading.value with
    | .finite negative mantissa exponent =>
      if negative && mantissa != 0 then none
      else
        let (up, down) := Floating.quotient mantissa exponent
        some (up * unit * second / down)
    | .infinite false => some (second * second)
    | _ => none

def sleep : Utility := fun args => do
  let (_, operands) ← options 1 [] args
  let operands ← needOperand 1 "operand" operands
  let wrong := operands.filter fun text => (duration? text).isNone
  if wrong.isEmpty then
    let sum := (operands.filterMap duration?).foldl (· + ·) 0
    Work.change fun machine => machine.wait sum
    return 0
  else
    wrong.dropLast.forM fun text =>
      Work.complain ("invalid time interval " ++ Quotation.between text)
    Work.misuse 1 ("invalid time interval " ++ Quotation.between (wrong.getLastD ""))

/-- The part of a path after its last slash, slashes at its end left out. -/
def lastName (path : String) : String :=
  match ((FileTree.pieces path).filter (· != "")).getLast? with
  | some name => name
  | none => if path.isEmpty then "" else "/"

/-- Takes an ending away from a name, unless nothing would be left of it. -/
def withoutEnding (ending name : String) : String :=
  if name.endsWith ending && ending.length < name.length then
    String.ofList (name.toList.take (name.length - ending.length))
  else name

/-- Writes the last names of paths, on demand without an ending. -/
def basename : Utility := fun args => do
  let forms := [.both 'a' "multiple", .both 's' "suffix" .required, .both 'z' "zero"]
  let (given, operands) ← options 1 forms args false
  let operands ← needOperand 1 "operand" operands
  let ending := lineEnd given "zero"
  let say (suffix path : String) : Work Unit :=
    let name := lastName path
    Work.say ((if name = "/" then name else withoutEnding suffix name) ++ ending)
  if has given "multiple" || has given "suffix" then
    operands.forM (say ((value? given "suffix").getD ""))
    return 0
  else
    match operands with
    | [path] => say "" path
    | [path, suffix] => say suffix path
    | _ => Work.misuse 1 ("extra operand " ++ Quotation.between (operands.getD 2 ""))
    return 0

def aboveName (path : String) : String :=
  let isSlash (c : Char) : Bool := c = '/'
  let chars := path.toList
  let trimmed := (chars.reverse.dropWhile isSlash).dropWhile (!isSlash ·)
  let above := (trimmed.dropWhile isSlash).reverse
  if !above.isEmpty then String.ofList above
  else if chars.head? = some '/' then "/"
  else "."

def dirname : Utility := fun args => do
  let (given, operands) ← options 1 [.both 'z' "zero"] args false
  let operands ← needOperand 1 "operand" operands
  operands.forM fun path => Work.say (aboveName path ++ lineEnd given "zero")
  return 0

end ToolGate.Host.Utility
