import ToolGate.Host.Builtin
import ToolGate.Host.Condition.Shell
import ToolGate.Host.Fields
import ToolGate.Host.Printing

/-!
The commands of the shell that write texts, check conditions, and read lines.
-/

namespace ToolGate.Host.Builtin

def echo : Builtin := fun args => do
  Shell.write 1 (Escapes.shellEcho args)
  return 0

def printf : Builtin := fun args => do
  match ← operands args with
  | [] => Shell.refuse "usage: printf format [arg ...]"
  | format :: args =>
    let printed := shellPrint format args
    printed.complaints.forM Shell.complain
    Shell.write 1 printed.text
    return printed.status

/-- Checks a condition. The name says whether a closing bracket is needed. -/
def test (name : String) : Builtin := fun args => do
  if name = "[" && args.getLast? != some "]" then Shell.refuse "missing ]"
  else
    let session ← get
    let view : Condition.View := { files := session.machine.files, directory := session.directory }
    match Condition.Shell.evaluate view (if name = "[" then args.dropLast else args) with
    | .ok value => return if value then 0 else 1
    | .error problem => Shell.refuse problem.message

/-- A line at the beginning of a text, its characters marked if a backslash protects them; what
follows it; and whether the line has an end. A backslash at the end of a line joins it with the next
one. -/
def takeLine (raw : Bool) : List Char → List Fields.Mark × List Char × Bool
  | [] => ([], [], false)
  | '\n' :: rest => ([], rest, true)
  | '\\' :: rest =>
    if raw then
      let (line, after, ended) := takeLine raw rest
      (('\\', false) :: line, after, ended)
    else
      match rest with
      | [] => ([], [], false)
      | c :: rest =>
        let (line, after, ended) := takeLine raw rest
        (if c = '\n' then line else (c, true) :: line, after, ended)
  | c :: rest =>
    let (line, after, ended) := takeLine raw rest
    (if c = '\x00' then line else (c, false) :: line, after, ended)

/-- Reads one line of the standard input into variables. -/
def read : Builtin := fun args => do
  let (given, names) ← options "r" "p" args
  if names.isEmpty then Shell.refuse "arg count"
  else
    let session ← get
    let channel := (session.channel? 0).getD .nothing
    let (line, rest, ended) := takeLine (isGiven 'r' given) (session.machine.waiting channel).toList
    modify fun session =>
      { session with machine := session.machine.leave channel (String.ofList rest) }
    let separators := ((session.valueOf? "IFS").getD " \t\n").toList
    let fields := Fields.share separators names.length [] false line
    let padding := List.replicate (names.length - fields.length) []
    (names.zip (fields ++ padding)).forM fun (name, value) => do
      checkName name
      Shell.assign name (String.ofList value)
    return if ended then 0 else 1

end ToolGate.Host.Builtin
