import ToolGate.Host.Utility.Copying
import ToolGate.Host.Utility.Creating
import ToolGate.Host.Utility.Editor
import ToolGate.Host.Utility.Listing
import ToolGate.Host.Utility.Removing
import ToolGate.Host.Utility.Sorting
import ToolGate.Host.Utility.Starting
import ToolGate.Host.Utility.Words

/-!
The programs of the host by their names.
-/

namespace ToolGate.Host.Utility

/-- A program, and the code with which it ends where its output got lost. -/
structure Installed where
  name : String
  lostCode : Nat := 1
  start : Starter

/-- A program that runs no other one. -/
def alone (name : String) (utility : Utility) (lostCode : Nat := 1) : Installed where
  name
  lostCode
  start := fun _ args => do return .exited (← utility args)

/-- All programs but the shell. -/
def table : List Installed := [
  alone "[" (test true), alone "basename" basename, alone "cat" cat, alone "dirname" dirname,
  alone "echo" echo, { name := "env", lostCode := 125, start := env },
  alone "false" (status "false" 1), alone "head" head, alone "ls" ls 2,
  alone "mkdir" mkdir, { name := "nohup", lostCode := 125, start := nohup },
  alone "printenv" printenv 2, alone "printf" printf, alone "pwd" pwd, alone "rm" rm,
  alone "rmdir" rmdir, alone "sed" sed 4, alone "sleep" sleep, alone "sort" sort 2,
  alone "tac" tac, alone "tail" tail, alone "tee" tee, alone "test" (test false),
  { name := "timeout", lostCode := 125, start := timeout }, alone "touch" touch,
  alone "true" (status "true" 0), alone "uniq" uniq,
  { name := "xargs", start := xargs }]

def launch (launch : Launch) : Launch := fun name process machine =>
  match table.find? fun entry => entry.name = name with
  | some entry =>
    Work.run (entry.start launch process.words.tail) entry.lostCode process machine
  | none => (.exited 127, machine)

end ToolGate.Host.Utility
