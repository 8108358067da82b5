import ToolGate.Host.Pattern
import ToolGate.Host.Utility.Options

/-!
The program of the host that lists names: those in directories, and those that it is given.
-/

namespace ToolGate.Host.Utility

/-- How names are arranged. -/
inductive Arrangement where
  | lines
  /-- In columns, filled from top to bottom. -/
  | down
  /-- In columns, filled from left to right. -/
  | along
  | commas
  deriving DecidableEq, Repr

/-- Which names in directories are listed. -/
inductive Listed where
  | plain
  /-- Those with a leading dot, too. -/
  | hidden
  /-- Those with a leading dot, too, and the names of the directory itself and the one above. -/
  | all
  deriving DecidableEq, Repr

/-- Which marks follow the names. -/
inductive Marks where
  | none
  | directories
  | types
  | all
  deriving DecidableEq, Repr

/-- How names are written. -/
inductive NameStyle where
  | plain
  | quoted
  | escaped
  /-- What cannot be printed becomes a question mark. -/
  | masked
  deriving DecidableEq, Repr

/-- By what names are sorted. -/
inductive SortKey where
  | name
  | nothing
  | size
  | ending
  deriving DecidableEq, Repr

structure Listing where
  arrangement : Arrangement
  listed : Listed
  marks : Marks
  style : NameStyle
  key : SortKey
  reversed : Bool
  /-- Directories come before other files. -/
  grouped : Bool
  /-- Directories are listed as such, and not what is in them. -/
  closed : Bool
  recursive : Bool
  /-- Links are followed. -/
  followed : Bool
  /-- Names that are left out, as patterns, and those that are left out if they would be listed by
  default. -/
  ignored : List String
  hidden : List String
  width : Nat
  ending : String

structure Entry where
  name : String
  place : Place
  node : Node

namespace Listing

def shown (listing : Listing) (name : String) : String :=
  let escape (marked : List Char) : List Char :=
    name.toList.flatMap fun c =>
      if marked.contains c then ['\\', c]
      else if Quotation.isPrinted c then [c]
      else '\\' :: Quotation.code c
  match listing.style with
  | .plain => name
  | .quoted => "\"" ++ String.ofList (escape ['"', '\\']) ++ "\""
  | .escaped => String.ofList (escape [' ', '\\'])
  | .masked => String.ofList (name.toList.map fun c => if Quotation.isPrinted c then c else '?')

def markOf (listing : Listing) (node : Node) : String :=
  match listing.marks, node with
  | .none, _ => ""
  | _, .directory => "/"
  | .directories, _ => ""
  | _, .link _ => "@"
  | .all, .file _ true | .all, .program _ => "*"
  | _, _ => ""

def text (listing : Listing) (entry : Entry) : String :=
  listing.shown entry.name ++ listing.markOf entry.node

/-- Writes a list of texts with commas. `used` is what the last line holds already. -/
def commaLines (width : Nat) : Nat → List String → String
  | _, [] => ""
  | used, text :: rest =>
    if used = 0 then text ++ commaLines width text.length rest
    else if width = 0 || used + 2 + text.length ≤ width then
      ", " ++ text ++ commaLines width (used + 2 + text.length) rest
    else ",\n" ++ text ++ commaLines width text.length rest

/-- The blanks from one position on a line to another, tabs where they fit. The fuel is the second
position. -/
def indent : Nat → Nat → Nat → String
  | 0, _, _ => ""
  | fuel + 1, start, stop =>
    if stop ≤ start then ""
    else if (start + 1) / 8 < stop / 8 then
      "\t" ++ indent fuel (start + 8 - start % 8) stop
    else " " ++ indent fuel (start + 1) stop

/-- The texts of the columns, if there are that many. -/
def columns (down : Bool) (count : Nat) (texts : List String) : List (List String) :=
  let rows := (texts.length + count - 1) / count
  (List.range count).map fun column =>
    if down then (texts.drop (column * rows)).take rows
    else (List.range rows).filterMap fun row => texts[row * count + column]?

/-- How wide some columns are, each with the gap to the next one. -/
def widths (columns : List (List String)) : List Nat :=
  columns.mapIdx fun index column =>
    let gap := if index + 1 = columns.length then 0 else 2
    (column.map fun text => max 3 (text.length + gap)).foldl max 3

def columnCount (down : Bool) (width : Nat) (texts : List String) : Nat :=
  let most := if width = 0 then texts.length else min texts.length ((width + 2) / 3)
  let fits (count : Nat) : Bool :=
    let widths := widths (columns down count texts)
    width = 0 || widths.foldl (· + ·) 0 < width
  (((List.range most).map (· + 1)).filter fits).getLast?.getD 1

def rowText : Nat → Nat → List (String × Nat) → String
  | _, _, [] => ""
  | position, reached, (text, width) :: rest =>
    indent position reached position ++ text ++
      rowText (position + width) (position + text.length) rest

def columnLines (down : Bool) (width : Nat) (texts : List String) : String :=
  let count := columnCount down width texts
  let columns := columns down count texts
  let widths := widths columns
  let rows := (columns.map List.length).foldl max 0
  String.join ((List.range rows).map fun row =>
    let cells := (columns.zip widths).filterMap fun (column, width) =>
      (column[row]?).map fun text => (text, width)
    rowText 0 0 cells ++ "\n")

def lines (listing : Listing) (entries : List Entry) : String :=
  let texts := entries.map listing.text
  if texts.isEmpty then ""
  else
    match listing.arrangement with
    | .lines => String.join (texts.map (· ++ listing.ending))
    | .commas => commaLines listing.width 0 texts ++ "\n"
    | .down => columnLines true listing.width texts
    | .along => columnLines false listing.width texts

def size : Node → Nat
  | .file content _ => content.length
  | .link target => target.length
  | .directory => 4096
  | _ => 0

/-- The part of a name from its last dot on. -/
def nameEnding (name : String) : String :=
  let chars := name.toList
  let after := (chars.reverse.takeWhile (· != '.')).length
  if after = chars.length then "" else String.ofList (chars.drop (chars.length - after - 1))

/-- Whether one entry does not come after another one. -/
def precedes (listing : Listing) (first second : Entry) : Bool :=
  let byName := decide (first.name ≤ second.name)
  match listing.key with
  | .name | .nothing => byName
  | .size =>
    let (a, b) := (size first.node, size second.node)
    b < a || (a = b && byName)
  | .ending =>
    let (a, b) := (nameEnding first.name, nameEnding second.name)
    decide (a < b) || (a = b && byName)

def sorted (listing : Listing) (entries : List Entry) : List Entry :=
  let ordered :=
    match listing.key with
    | .nothing => entries
    | _ =>
      let ordered := entries.mergeSort listing.precedes
      if listing.reversed then ordered.reverse else ordered
  if listing.grouped then
    let isDirectory (entry : Entry) : Bool := entry.node = .directory
    ordered.filter isDirectory ++ ordered.filter (!isDirectory ·)
  else ordered

def lists (listing : Listing) (name : String) : Bool :=
  let matched (patterns : List String) : Bool :=
    patterns.any fun text => Pattern.isMatch (text.toList.map fun c => (c, false)) name.toList
  !matched listing.ignored &&
    (listing.listed ≠ .plain || (!name.startsWith "." && !matched listing.hidden))

/-- The entries that stand for a directory itself and for the one above. -/
def dots (listing : Listing) (files : FileTree) (place : Place) : List Entry :=
  if listing.listed = .all && (files.node? place).isSome then
    [⟨".", place, .directory⟩, ⟨"..", place.dropLast, .directory⟩]
  else []

def inside (listing : Listing) (files : FileTree) (place : Place) (name : String) : Entry :=
  let found := if listing.followed then (files.find place name).toOption else none
  match found with
  | some (place, node) => ⟨name, place, node⟩
  | none => ⟨name, place ++ [name], (files.node? (place ++ [name])).getD .directory⟩

def entries (listing : Listing) (files : FileTree) (place : Place) : List Entry :=
  let names := (files.names place).filter listing.lists
  listing.sorted (listing.dots files place ++ names.map (listing.inside files place))

/-- A directory with its headline, and with those below it if that is asked for. The fuel is the
depth of the tree. -/
def paragraphs (listing : Listing) (files : FileTree) (headed : Bool) :
    Nat → Entry → List String
  | 0, _ => []
  | fuel + 1, directory =>
    let entries := listing.entries files directory.place
    let headline := if headed then listing.shown directory.name ++ ":\n" else ""
    let start := if directory.name.endsWith "/" then directory.name else directory.name ++ "/"
    let below := if listing.recursive then entries.filter fun entry =>
      entry.node = .directory && entry.name ≠ "." && entry.name ≠ ".." else []
    (headline ++ listing.lines entries) :: below.flatMap fun entry =>
      listing.paragraphs files headed fuel { entry with name := start ++ entry.name }

/-- What a path stands for on a list. A link to a directory is followed, unless links are marked. -/
def entry (listing : Listing) (files : FileTree) (directory : Place) (path : String) :
    Except OsError Entry := do
  let followed := files.find directory path
  let (place, node) ← files.look directory path false
  match followed with
  | .ok (target, .directory) =>
    if listing.closed || (listing.marks = .all && !listing.followed) then
      return ⟨path, place, node⟩
    else return ⟨path, target, .directory⟩
  | .ok (target, followedNode) =>
    return if listing.followed then ⟨path, target, followedNode⟩ else ⟨path, place, node⟩
  | .error _ => return ⟨path, place, node⟩

end Listing

def listingForms : List Form := [
  .both 'a' "all", .both 'A' "almost-all", .long "author", .both 'b' "escape",
  .both 'B' "ignore-backups", .short 'C', .long "color" .optional, .both 'd' "directory",
  .short 'f', .both 'F' "classify" .optional, .long "file-type", .long "format" .required,
  .long "group-directories-first", .both 'I' "ignore" .required, .long "hide" .required,
  .long "indicator-style" .required, .both 'k' "kibibytes", .both 'L' "dereference", .short 'm',
  .both 'N' "literal", .short 'p', .both 'q' "hide-control-chars", .both 'Q' "quote-name",
  .long "quoting-style" .required, .both 'r' "reverse", .both 'R' "recursive", .short 'S',
  .long "show-control-chars", .long "sort" .required, .short 'U', .both 'w' "width" .required,
  .short 'x', .short 'X', .long "zero", .short '1']

/-- The meaning of the last of some given options that has one. -/
def lastMeaning {α : Type} (given : List Given) (before : α)
    (meaning : Given → Work (Option α)) : Work α := do
  return ((← given.filterMapM meaning).getLast?).getD before

def readListing (given : List Given) : Work Listing := do
  let arrangement ← lastMeaning given .lines fun
    | ⟨"C", _⟩ => return some .down
    | ⟨"x", _⟩ => return some .along
    | ⟨"m", _⟩ => return some .commas
    | ⟨"1", _⟩ | ⟨"zero", _⟩ => return some .lines
    | ⟨"format", some value⟩ => do
      return some (← choose 2 "format" value [
        (["verbose", "long"], .lines), (["commas"], .commas), (["horizontal", "across"], .along),
        (["vertical"], .down), (["single-column"], .lines)])
    | _ => return none
  let listed ← lastMeaning given .plain fun
    | ⟨"all", _⟩ | ⟨"f", _⟩ => return some .all
    | ⟨"almost-all", _⟩ => return some .hidden
    | _ => return none
  let marks ← lastMeaning given .none fun
    | ⟨"classify", value⟩ => do
      return some (← choose 2 "classify" (value.getD "always") [
        (["always", "yes", "force"], .all), (["never", "no", "none"], .none),
        (["auto", "tty", "if-tty"], .none)])
    | ⟨"file-type", _⟩ => return some .types
    | ⟨"p", _⟩ => return some .directories
    | ⟨"indicator-style", some value⟩ => do
      return some (← choose 2 "indicator-style" value [
        (["none"], .none), (["slash"], .directories), (["file-type"], .types),
        (["classify"], .all)])
    | _ => return none
  let style ← lastMeaning given .plain fun
    | ⟨"literal", _⟩ => return some .plain
    | ⟨"quote-name", _⟩ => return some .quoted
    | ⟨"escape", _⟩ => return some .escaped
    | ⟨"hide-control-chars", _⟩ => return some .masked
    | _ => return none
  let key ← lastMeaning given .name fun
    | ⟨"S", _⟩ => return some .size
    | ⟨"U", _⟩ | ⟨"f", _⟩ => return some .nothing
    | ⟨"X", _⟩ => return some .ending
    | ⟨"sort", some value⟩ => do
      return some (← choose 2 "sort" value [
        (["none"], .nothing), (["time"], .name), (["size"], .size), (["extension"], .ending),
        (["version"], .name), (["width"], .name), (["name"], .name)])
    | _ => return none
  let valuesOf (key : String) : List String :=
    given.filterMap fun option => if option.key = key then option.value else none
  let backups := if has given "ignore-backups" then ["*~"] else []
  let width ←
    match value? given "width" with
    | none => pure 80
    | some text =>
      match text.toNat? with
      | some width => pure width
      | none => Work.refuse 2 ("invalid line width: " ++ Quotation.between text)
  return {
    arrangement, listed, marks, style, key, width
    reversed := has given "reverse"
    grouped := has given "group-directories-first"
    closed := has given "directory"
    recursive := has given "recursive"
    followed := has given "dereference"
    ignored := valuesOf "ignore" ++ backups
    hidden := valuesOf "hide"
    ending := lineEnd given "zero" }

def ls : Utility := fun args => do
  let (given, operands) ← options 2 listingForms args
  let listing ← readListing given
  let paths := if operands.isEmpty then ["."] else operands
  let found ← paths.filterMapM fun path => do
    match ← Work.look fun files directory => listing.entry files directory path with
    | .ok entry => return some entry
    | .error error =>
      Work.blame "cannot access" path error
      return none
  let isOpened (entry : Entry) : Bool := entry.node = .directory && !listing.closed
  let others := listing.lines (listing.sorted (found.filter (!isOpened ·)))
  let headed := listing.recursive || 1 < paths.length
  let (files, depth) ← Work.ask fun machine => (machine.files, machine.files.nodes.length + 1)
  let paragraphs := (listing.sorted (found.filter isOpened)).flatMap
    (listing.paragraphs files headed depth)
  let blocks := (if others.isEmpty then [] else [others]) ++ paragraphs
  Work.say (String.intercalate "\n" blocks)
  return if found.length = paths.length then 0 else 2

end ToolGate.Host.Utility
