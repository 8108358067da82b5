import ToolGate.Host.Builtin.Directories
import ToolGate.Host.Builtin.Jobs
import ToolGate.Host.Builtin.Leaving
import ToolGate.Host.Builtin.Limits
import ToolGate.Host.Builtin.Names
import ToolGate.Host.Builtin.Variables
import ToolGate.Host.Builtin.Words

/-!
The commands of the shell by their names, those left out that run other commands.
-/

namespace ToolGate.Host.Builtin

def table : List (String × Builtin) := [
  (":", fun _ => return 0), ("[", test "["), ("alias", setAliases), ("bg", moveJob),
  ("break", leave Stop.leaveLoops), ("cd", cd), ("chdir", cd), ("command", command),
  ("continue", leave Stop.nextRound), ("echo", echo), ("exit", exit), ("export", exportMark),
  ("false", fun _ => return 1), ("fg", moveJob), ("getopts", getopts), ("hash", hash),
  ("jobs", jobs), ("kill", kill), ("local", own), ("printf", printf), ("pwd", pwd), ("read", read),
  ("readonly", readonly), ("return", ret), ("set", set), ("shift", shift), ("test", test "test"),
  ("times", times), ("trap", trap), ("true", fun _ => return 0), ("type", type),
  ("ulimit", ulimit), ("umask", umask), ("unalias", unsetAliases), ("unset", unset)]

def assigning : List String := ["alias", "export", "local", "readonly"]

end ToolGate.Host.Builtin
