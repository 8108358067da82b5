import ToolGate.Host.FileTree

/-!
How a file becomes a running program. A program of the host runs as it is; a text that begins with
`#!` names the program that reads it; any other text is left to the shell, if the caller wants that.
Bare names are looked up in a list of directories.
-/

namespace ToolGate.Host.Loading

/-- A program of the host, and the words that it is started with. -/
structure Image where
  program : String
  words : List String
  deriving DecidableEq, Repr

/-- How many interpreters may stand between a file and the program that runs in the end. -/
def interpreterLimit : Nat := 5

def shellPath : String := "/bin/sh"

/-- The image in which the shell reads a file. -/
def shellImage (path : String) (words : List String) : Image :=
  { program := "sh", words := shellPath :: path :: words.tail }

/-- How much of a file is looked at when it is started. -/
def headSize : Nat := 256

/-- Whether a character separates words in the first line of a script. -/
def isBlank (c : Char) : Bool := c = ' ' || c = '\t'

/-- The part of a script's beginning that names its interpreter: the first line, or, where no line
ends, all that is looked at but its last character. A name that might go on has no such part. -/
def headLine? (text : List Char) : Option (List Char) :=
  let head := text ++ List.replicate (headSize - 2 - text.length) '\x00'
  let line := head.takeWhile fun c => c != '\n' && c != '\x00'
  if (head.drop line.length).head? = some '\n' then some line
  else
    let words := head.dropWhile isBlank
    if words.any fun c => isBlank c || c = '\x00' then some head.dropLast else none

/-- The interpreter that the first line of a text names, and the argument that it is given. -/
def interpreter? (content : List Char) : Option (String × Option String) :=
  match content.take headSize with
  | '#' :: '!' :: rest => do
    let line ← headLine? rest
    let words := (line.reverse.dropWhile isBlank).reverse.dropWhile isBlank
    let name := words.takeWhile fun c => !isBlank c && c != '\x00'
    let after := words.drop name.length
    let argument :=
      if after.head?.any isBlank then
        some (String.ofList ((after.dropWhile isBlank).takeWhile (· != '\x00')))
      else none
    if words.isEmpty then none else some (String.ofList name, argument)
  | _ => none

/-- Loads a file, as seen from a directory. The fuel bounds the number of files that are read: the
first one and the interpreters. -/
def loadWithin (files : FileTree) (directory : Place) :
    Nat → String → List String → Except OsError Image
  | 0, _, _ => .error .tooManyLinks
  | fuel + 1, path, words => do
    match ← files.find directory path with
    | (_, .program name) => return { program := name, words }
    | (_, .file content true) =>
      match interpreter? content.toList with
      | some (name, argument) =>
        loadWithin files directory fuel name (name :: argument.toList ++ path :: words.tail)
      | none => .error .badFormat
    | _ => .error .accessDenied

def load (files : FileTree) (directory : Place) (path : String) (words : List String) :
    Except OsError Image :=
  loadWithin files directory (interpreterLimit + 1) path words

def entries (list : String) : List String :=
  (list.toList.splitOnP (· == ':')).map String.ofList

/-- The path of a name in a directory of a search list. An empty entry is the working directory. -/
def candidate (entry name : String) : String :=
  if entry.isEmpty then name else entry ++ "/" ++ name

def defaultList : String := "/bin:/usr/bin"

/-- The list that the shell starts with where it is handed none, and searches for the standard
commands. -/
def commandList : String :=
  "/usr/local/sbin:/usr/local/bin:/usr/sbin:/usr/bin:/sbin:/bin"

/-- Loads the first file with a name that can be loaded. A file that may not be executed is passed
over, but reported if no other one is found. -/
def loadFirst (files : FileTree) (directory : Place) (name : String) (words : List String) :
    Bool → List String → Except OsError Image
  | denied, [] => .error (if denied then .accessDenied else .notFound)
  | denied, entry :: rest =>
    let path := candidate entry name
    match load files directory path words with
    | .ok image => .ok image
    | .error error =>
      if error = .badFormat then .ok (shellImage path words)
      else if error = .accessDenied then loadFirst files directory name words true rest
      else if error = .notFound ∨ error = .notDirectory then
        loadFirst files directory name words denied rest
      else .error error

/-- Loads a program by its name: a path as it is, a bare name by the search list. -/
def loadNamed (files : FileTree) (directory : Place) (list : Option String) (name : String)
    (words : List String) : Except OsError Image :=
  if name.isEmpty then .error .notFound
  else if name.toList.contains '/' then load files directory name words
  else if FileTree.longestName < name.length then .error .nameTooLong
  else loadFirst files directory name words false (entries (list.getD defaultList))

/-- Loads a program by its name. A text that names no program to read it is left to the shell. -/
def loadOrInterpret (files : FileTree) (directory : Place) (list : Option String) (name : String)
    (words : List String) : Except OsError Image :=
  match loadNamed files directory list name words with
  | .error .badFormat => .ok (shellImage name words)
  | result => result

/-- Looks for an executable file, and goes on with the error of the last obstacle. -/
def searchFrom (files : FileTree) (directory : Place) (name : String) :
    OsError → List String → Except OsError String
  | error, [] => .error error
  | error, entry :: rest =>
    let path := candidate entry name
    match files.find directory path with
    | .ok (_, .program _) => .ok path
    | .ok (_, .file _ true) => .ok path
    | .ok _ => searchFrom files directory name .accessDenied rest
    | .error obstacle =>
      searchFrom files directory name
        (if obstacle = .notFound ∨ obstacle = .notDirectory then error else obstacle) rest

/-- The path of a bare name, as the shell looks for it. -/
def search (files : FileTree) (directory : Place) (list : String) (name : String) :
    Except OsError String :=
  searchFrom files directory name .notFound (entries list)

end ToolGate.Host.Loading
