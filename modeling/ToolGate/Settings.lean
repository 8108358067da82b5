import ToolGate.OsError
import ToolGate.Palette
import ToolGate.Path
import ToolGate.Task

/-!
Where the library works. The root of a project is given by a flag, by a variable, or else it is the
nearest directory upwards that holds a manifest. An explicit root that cannot be used is an error;
the search is no substitute for it.
-/

namespace ToolGate

def manifestName : String := "Cargo.toml"

def rootVariable : String := "DEVTASK_ROOT"

/-- The variable that turns colours off when it has a value. -/
def noColorVariable : String := "NO_COLOR"

/-- The variable that demands colours, also where no terminal shows them, when it has a value. -/
def forceColorVariable : String := "CLICOLOR_FORCE"

/-- What the search for a root can see of the files: which paths are regular files, links
followed, and which canonical path a path has. -/
structure FileView where
  isFile : String → Bool
  realPath : String → Except OsError String

/-- Why there is no root. -/
inductive PathError where
  /-- No directory from `start` upwards holds a manifest. -/
  | rootNotFound (start : String)
  /-- The root has no canonical path. -/
  | rootInvalid (path : String) (cause : OsError)
  deriving DecidableEq, Repr

namespace PathError

def message : PathError → String
  | .rootNotFound start =>
    "No '" ++ manifestName ++ "' found in '" ++ start ++ "' or any of its parent directories."
  | .rootInvalid path cause =>
    "Project root '" ++ path ++ "' is not accessible: " ++ cause.message

def chain : PathError → String
  | error@(.rootInvalid _ cause) => error.message ++ ": " ++ cause.message
  | error => error.message

end PathError

def canonicalRoot (files : FileView) (path : String) : Except PathError String :=
  (files.realPath path).mapError (.rootInvalid path)

/-- The canonical path of the nearest directory, from `start` upwards, that holds a manifest. -/
def findRoot (files : FileView) (start : String) : Except PathError String :=
  match (Path.ancestors start).find? fun directory =>
      files.isFile (Path.join directory manifestName) with
  | some directory => canonicalRoot files directory
  | none => .error (.rootNotFound start)

/-- What the actions know about their surroundings. -/
structure Settings where
  /-- Whether status markers are painted. -/
  color : Bool
  /-- The working directory of every step. -/
  root : String
  deriving DecidableEq, Repr

namespace Settings

def palette (settings : Settings) : Palette :=
  ⟨settings.color⟩

/-- The root that the sources choose: the flag, else a variable with a value, else the search from
the current directory. Explicit roots are seen from the current directory. -/
def chooseRoot (files : FileView) (rootFlag rootValue : Option String) (current : String) :
    Except PathError String :=
  match rootFlag, rootValue.filter (!·.isEmpty) with
  | some path, _ => canonicalRoot files (Path.join current path)
  | none, some path => canonicalRoot files (Path.join current path)
  | none, none => findRoot files current

/-- Settings from explicit sources. The chosen root is left on record. -/
def fromSources (files : FileView) (color : Bool) (rootFlag rootValue : Option String)
    (current : String) : Task PathError Settings := do
  let root ← Task.ofExcept (chooseRoot files rootFlag rootValue current)
  Task.perform (.log ("Resolved project root: " ++ root))
  return { color, root }

end Settings

/-- What a process finds when it starts: its variables, its working directory, and the files. -/
structure Surroundings where
  environment : Environment
  current : Except OsError String
  files : FileView

namespace Surroundings

def colorEnabled (surroundings : Surroundings) (noColorFlag : Bool) : Bool :=
  ToolGate.colorEnabled noColorFlag (surroundings.environment.get? noColorVariable)

/-- Whether messages about the command line have colours although no terminal reads them: when
one variable demands them and the other one does not turn them off. -/
def colorForced (surroundings : Surroundings) : Bool :=
  let hasValue := fun name => !((surroundings.environment.get? name).getD "").isEmpty
  hasValue forceColorVariable && !hasValue noColorVariable

/-- Settings from the surroundings. A working directory that is gone is reported under the name
`.`, whatever root was asked for. -/
def loadSettings (surroundings : Surroundings) (color : Bool) (rootFlag : Option String) :
    Task PathError Settings := do
  let current ← Task.ofExcept (surroundings.current.mapError (.rootInvalid "."))
  Settings.fromSources surroundings.files color rootFlag
    (surroundings.environment.get? rootVariable) current

end Surroundings

end ToolGate
