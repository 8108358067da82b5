import ToolGate.OsError
import ToolGate.Path

/-!
A file tree held in memory, and how paths lead through it. A path is followed component by
component from a starting place; symbolic links are followed up to a limit, and every component
but the last one has to be a directory. Names and contents are texts of octets.
-/

namespace ToolGate.Host

/-- What stands at a place in the file tree. -/
inductive Node where
  | directory
  /-- A text. Only an executable file can be started. -/
  | file (content : String) (executable : Bool)
  | link (target : String)
  /-- A program that is part of the host. -/
  | program (name : String)
  /-- A file that is always empty and forgets what is written to it. -/
  | sink
  /-- One of the channels of the process that opens it. -/
  | channel (number : Nat)
  deriving DecidableEq, Repr

/-- A place: the names on the way from the root. -/
abbrev Place : Type := List String

def Place.text (place : Place) : String :=
  "/" ++ String.intercalate "/" place

/-- All files below the root. -/
structure FileTree where
  nodes : List (Place × Node)
  deriving DecidableEq, Repr

namespace FileTree

def empty : FileTree := ⟨[]⟩

def node? (tree : FileTree) (place : Place) : Option Node :=
  if place.isEmpty then some .directory else tree.nodes.lookup place

def put (tree : FileTree) (place : Place) (node : Node) : FileTree :=
  if (tree.nodes.lookup place).isSome then
    ⟨tree.nodes.map fun entry => if entry.1 = place then (place, node) else entry⟩
  else ⟨tree.nodes ++ [(place, node)]⟩

def remove (tree : FileTree) (place : Place) : FileTree :=
  ⟨tree.nodes.filter fun entry => !place.isPrefixOf entry.1⟩

def names (tree : FileTree) (place : Place) : List String :=
  tree.nodes.filterMap fun entry =>
    if entry.1.dropLast = place then entry.1.getLast? else none

def makeDirectories (tree : FileTree) (place : Place) : FileTree :=
  ((List.range (place.length + 1)).map place.take).foldl
    (fun tree way => if (tree.node? way).isSome then tree else tree.put way .directory) tree

def longestName : Nat := 255

def longestPath : Nat := 4095

def linkLimit : Nat := 40

/-- The components of a path, those included that stand for no step. -/
def pieces (path : String) : List String :=
  (path.toList.splitOnP (· == '/')).map String.ofList

/-- Follows the components of a path. The last component need not exist, and if it is a link, it is
followed only on demand. Every place on the way has to pass a check. -/
def walk (tree : FileTree) (check : Place → Except OsError Unit) (followLast : Bool) (links : Nat)
    (place : Place) (rest : List String) : Except OsError Place :=
  match rest with
  | [] => .ok place
  | piece :: rest =>
    match tree.node? place with
    | none => .error .notFound
    | some .directory =>
      if piece = "" ∨ piece = "." then tree.walk check followLast links place rest
      else if piece = ".." then tree.walk check followLast links place.dropLast rest
      else if longestName < piece.length then .error .nameTooLong
      else do
        check (place ++ [piece])
        match tree.node? (place ++ [piece]) with
        | some (.link target) =>
          if rest.isEmpty && !followLast then .ok (place ++ [piece])
          else
            match links with
            | 0 => .error .tooManyLinks
            | links + 1 =>
              let start := if Path.isAbsolute target.toList then [] else place
              tree.walk check followLast links start (pieces target ++ rest)
        | _ => tree.walk check followLast links (place ++ [piece]) rest
    | some _ => .error .notDirectory
termination_by (links, rest.length)

/-- Goes up from a directory that has been removed as far as a path says so. What is left of the
path starts in a directory that exists, unless it is a name. -/
def climb (tree : FileTree) : Place → List String → Place × List String
  | place, [] => (place, [])
  | place, piece :: rest =>
    if (tree.node? place).isSome then (place, piece :: rest)
    else if piece = "" ∨ piece = "." then tree.climb place rest
    else if piece = ".." then tree.climb place.dropLast rest
    else (place, piece :: rest)

/-- Where a path starts, as seen from a directory, and what it is made of. -/
def setOut (tree : FileTree) (directory : Place) (path : String) : Place × List String :=
  if Path.isAbsolute path.toList then ([], pieces path) else tree.climb directory (pieces path)

def checkPath (path : String) : Except OsError Unit :=
  if path.toList.contains '\x00' then .error .nulInFileName
  else if path.isEmpty then .error .notFound
  else .ok ()

/-- The place that a path names, as seen from a directory. The place need not exist. -/
def locate (tree : FileTree) (directory : Place) (path : String) (followLast : Bool) :
    Except OsError Place := do
  checkPath path
  if longestPath < path.length then .error .nameTooLong
  else
    let (start, rest) := tree.setOut directory path
    tree.walk (fun _ => .ok ()) followLast linkLimit start rest

/-- What a path names, and where it stands. A directory that has been removed is still there for a
process that works in it. -/
def look (tree : FileTree) (directory : Place) (path : String) (followLast : Bool) :
    Except OsError (Place × Node) := do
  let place ← tree.locate directory path followLast
  match tree.node? place with
  | some node => return (place, node)
  | none =>
    if (tree.setOut directory path).2.isEmpty then return (place, .directory)
    else .error .notFound

/-- What a path names, links followed, and where it stands. -/
def find (tree : FileTree) (directory : Place) (path : String) : Except OsError (Place × Node) :=
  tree.look directory path true

/-- The canonical path of a path. However long the path is, only the places that it leads through
have to be short enough. -/
def realPath (tree : FileTree) (directory : Place) (path : String) : Except OsError String := do
  checkPath path
  if !Path.isAbsolute path.toList && (tree.node? directory).isNone then .error .notFound
  else
    let start := if Path.isAbsolute path.toList then [] else directory
    let check (place : Place) : Except OsError Unit :=
      if longestPath < place.text.length then .error .nameTooLong else .ok ()
    let place ← tree.walk check true linkLimit start (pieces path)
    if (tree.node? place).isSome then return place.text else .error .notFound

/-- A path without the slashes at its end. The path of the root keeps one. -/
def withoutEndSlashes (path : String) : String :=
  let trimmed := (path.toList.reverse.dropWhile (· = '/')).reverse
  if trimmed.isEmpty && !path.isEmpty then "/" else String.ofList trimmed

def makeDirectory (tree : FileTree) (directory : Place) (path : String) :
    Except OsError FileTree := do
  let place ← tree.locate directory (withoutEndSlashes path) false
  if (tree.node? place).isSome then .error .alreadyExists
  else if tree.node? place.dropLast = some .directory then return tree.put place .directory
  else .error .notFound

def isFile (tree : FileTree) (directory : Place) (path : String) : Bool :=
  match tree.find directory path with
  | .ok (_, .file _ _) | .ok (_, .program _) => true
  | _ => false

end FileTree

end ToolGate.Host
