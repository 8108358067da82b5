import ToolGate.Host.Builtin

/-!
The commands of the shell that leave what is running: a loop, a function, or the shell itself.
-/

namespace ToolGate.Host.Builtin

/-- Leaves some of the loops around the command, or goes on with their next round. -/
def leave (stop : Nat → Stop) : Builtin := fun args => do
  let count ← naturalOr 1 args
  let loops := (← get).loops
  if count = 0 then Shell.refuse ("Illegal number: " ++ args.headD "")
  else if loops = 0 then return 0
  else throw (stop (min count loops))

/-- Ends the shell. While the script for its end runs, the status of before counts. -/
def exit : Builtin := fun args => do
  let session ← get
  throw (.exit (← naturalOr (session.endStatus.getD session.status) args))

def ret : Builtin := fun args => do
  throw (.returned (← naturalOr (← get).status args))

end ToolGate.Host.Builtin
