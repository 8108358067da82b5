import ToolGate.Platform

/-!
Simplifying the path of a program by its text alone: repeated separators and `.` components
disappear, and `..` takes the component before it away. A name without a separator is left alone,
since it is looked up and not followed.
-/

namespace ToolGate

/-- How a path starts after its drive. The double root, as in `\\server\share`, is a kind of its
own on Windows. -/
inductive RootKind where
  | relative
  | single
  | double
  deriving DecidableEq, Repr

/-- A path taken apart: an optional drive such as `C:`, the kind of root, and the texts between
the separators. -/
structure ProgramPath where
  drive : List Char
  root : RootKind
  parts : List (List Char)
  deriving DecidableEq, Repr

namespace ProgramPath

/-- The drive of a path and the rest of it. Only Windows has drives, and a drive is a letter of
the ASCII alphabet and a colon. -/
def splitDrive : Platform → List Char → List Char × List Char
  | .windows, c :: ':' :: rest => if c.isAlpha then ([c, ':'], rest) else ([], c :: ':' :: rest)
  | _, text => ([], text)

/-- The kind of root that a number of leading separators stands for. -/
def rootOf (platform : Platform) (leading : Nat) : RootKind :=
  match platform, leading with
  | _, 0 => .relative
  | .windows, 2 => .double
  | _, _ => .single

def read (platform : Platform) (text : List Char) : ProgramPath :=
  let (drive, rest) := splitDrive platform text
  { drive
    root := rootOf platform (rest.takeWhile platform.isSeparator).length
    parts := rest.splitOnP platform.isSeparator }

/-- Adds a component to a stack of components whose last one comes first. Below a root there is
nothing for `..` to leave; elsewhere a leading `..` stays. -/
def push (root : RootKind) (stack : List (List Char)) (part : List Char) : List (List Char) :=
  if part = [] ∨ part = ['.'] then stack
  else if part = ['.', '.'] then
    match stack with
    | last :: below =>
      if last ≠ ['.', '.'] then below
      else if root = .relative then part :: stack else stack
    | [] => if root = .relative then [part] else []
  else part :: stack

def simplify (path : ProgramPath) : ProgramPath :=
  { path with parts := (path.parts.foldl (push path.root) []).reverse }

def rootText (platform : Platform) : RootKind → List Char
  | .relative => []
  | .single => [platform.separator]
  | .double => [platform.separator, platform.separator]

def render (platform : Platform) (path : ProgramPath) : List Char :=
  path.drive ++ rootText platform path.root ++ [platform.separator].intercalate path.parts

end ProgramPath

/-- The simplified text of a program's path. Nothing left means the current directory. -/
def normalText (platform : Platform) (text : List Char) : List Char :=
  if text.any platform.isSeparator then
    match (ProgramPath.read platform text).simplify.render platform with
    | [] => ['.']
    | simplified => simplified
  else text

/-- The simplified path of a program. -/
def normalizeProgram (platform : Platform) (program : String) : String :=
  String.ofList (normalText platform program.toList)

end ToolGate
