import ToolGate.Host.Builtin

/-!
The commands of the shell that show what it has used and what it may use.
-/

namespace ToolGate.Host.Builtin

/-- The limits of a process, by their letters: their names and values. -/
def limits : List (Char × String × String) := [
  ('t', "time(seconds)", "unlimited"), ('f', "file(blocks)", "unlimited"),
  ('d', "data(kbytes)", "unlimited"), ('s', "stack(kbytes)", "8192"),
  ('c', "coredump(blocks)", "0"), ('m', "memory(kbytes)", "unlimited"),
  ('l', "locked memory(kbytes)", "8192"), ('p', "process", "128620"), ('n', "nofiles", "20000"),
  ('v', "vmemory(kbytes)", "unlimited"), ('w', "locks", "unlimited"), ('r', "rtprio", "0")]

/-- Shows limits. Those that are set keep their values on this host. -/
def ulimit : Builtin := fun args => do
  let (given, rest) ← options "HSatfdsmcnpvlwr" "" args
  let which := (given.filter fun option => (limits.lookup option.1).isSome).getLast?
  let all := isGiven 'a' given
  match rest with
  | [] =>
    if all then
      limits.forM fun (_, name, value) =>
        let padding := String.ofList (List.replicate (20 - name.length) ' ')
        Shell.say (name ++ padding ++ " " ++ value)
    else
      match limits.lookup (which.elim 'f' Prod.fst) with
      | some (_, value) => Shell.say value
      | none => pure ()
  | value :: more =>
    if all || !more.isEmpty then Shell.refuse "too many arguments"
    if value != "unlimited" && !value.toList.all Char.isDigit then Shell.refuse "bad number"
  return 0

/-- Shows the time that the shell and its children have used, which is none. -/
def times : Builtin := fun _ => do
  Shell.say "0m0.000000s 0m0.000000s"
  Shell.say "0m0.000000s 0m0.000000s"
  return 0

end ToolGate.Host.Builtin
