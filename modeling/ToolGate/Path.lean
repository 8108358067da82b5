/-!
Paths of the host as texts. Nothing here looks at files: a path is absolute if it begins with a
slash, it is cut at slashes, and its ancestors are found by cutting components off its end.
-/

namespace ToolGate.Path

/-- A path that begins at the root. -/
def isAbsolute (path : List Char) : Bool :=
  path.head? = some '/'

/-- The place that `path` names as seen from `base`. An absolute path is its own place. -/
def join (base path : String) : String :=
  if isAbsolute path.toList || base.isEmpty then path
  else if base.toList.getLast? = some '/' then base ++ path
  else base ++ "/" ++ path

/-- The beginning of a path that is no ordinary component: the root, or a leading `.` that stands
alone or before a slash. -/
def head : List Char → List Char
  | '/' :: _ => ['/']
  | ['.'] => ['.']
  | '.' :: '/' :: _ => ['.']
  | _ => []

/-- What follows the head, cut at slashes. -/
def pieces (path : List Char) : List (List Char) :=
  (path.drop (head path).length).splitOnP (· == '/')

/-- A piece that names no step: nothing between two slashes, or a `.`. -/
def isIdle (piece : List Char) : Bool :=
  piece.isEmpty || piece == ['.']

/-- The components of a path: its head, if it has one, and every piece that names a step. -/
def components (path : List Char) : List (List Char) :=
  (if (head path).isEmpty then [] else [head path]) ++ (pieces path).filter (!isIdle ·)

/-- The ancestors that are left when steps are cut off from the end of a path. The pieces come in
reverse order. Idle pieces at the end of what is left are dropped with the step. -/
def ancestorsFrom (head : List Char) : List (List Char) → List (List Char)
  | [] => if head = ['.'] then [[]] else []
  | piece :: before =>
    if isIdle piece then ancestorsFrom head before
    else
      (head ++ ['/'].intercalate (before.dropWhile isIdle).reverse) :: ancestorsFrom head before

/-- A path and its ancestors, the nearest first. Those of an absolute path end at the root, and
those of a relative one at the empty path. -/
def ancestors (path : String) : List String :=
  path :: (ancestorsFrom (head path.toList) (pieces path.toList).reverse).map String.ofList

end ToolGate.Path
