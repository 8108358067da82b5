/-!
The platforms whose conventions the library knows: how their paths are cut and whether their
commands need a shell.
-/

namespace ToolGate

/-- The two families of hosts. They differ in quoting, in path separators and in whether a
command is started through a shell by default. -/
inductive Platform where
  | posix
  | windows
  deriving DecidableEq, Repr, Inhabited

namespace Platform

def host : Platform := .posix

/-- Whether `c` ends a component of a path. A backslash does so on Windows only. -/
def isSeparator : Platform → Char → Bool
  | .posix, c => c == '/'
  | .windows, c => c == '/' || c == '\\'

def separator : Platform → Char
  | .posix => '/'
  | .windows => '\\'

/-- Whether a command goes through the platform's shell when nobody has chosen: on Windows only
a shell runs batch files. -/
def usesShell : Platform → Bool
  | .posix => false
  | .windows => true

/-- A simplified path is cut again at the separator that it was written with. -/
theorem isSeparator_separator (p : Platform) : p.isSeparator p.separator = true := by
  cases p <;> rfl

end Platform

end ToolGate
