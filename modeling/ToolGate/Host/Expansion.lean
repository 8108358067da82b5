import ToolGate.CommandLine.VariableName
import ToolGate.Host.Arithmetic
import ToolGate.Host.Fields
import ToolGate.Host.Session

/-!
What the words of a script stand for. Parameters, scripts and expressions inside a word are replaced
by texts; the result falls apart into fields where unquoted values have separators; and a field
with an active pattern becomes the paths that fit it, if there are any.
-/

namespace ToolGate.Host.Expansion

open CommandLine (isName)
open Script

/-- What becomes of a word. -/
structure Manner where
  /-- Whether the word falls apart into fields. -/
  full : Bool
  /-- Whether tildes have their meaning after colons too. -/
  colons : Bool := false

def Manner.fields : Manner := { full := true }

/-- A word that stays one text. -/
def Manner.text : Manner := { full := false }

def Manner.value : Manner := { full := false, colons := true }

abbrev Substitute : Type := Command → Shell String

def separators (context : Context) : List Char :=
  ((context.valueOf? "IFS").getD " \t\n").toList

/-- Whether a parameter stands for all arguments. -/
def isList (name : String) : Bool := name = "@" || name = "*"

def joined (context : Context) : String :=
  String.intercalate (String.ofList ((separators context).take 1)) context.arguments

def parameter? (context : Context) (name : String) : Option String :=
  match name with
  | "0" => some context.name
  | "#" => some (toString context.arguments.length)
  | "?" => some (toString context.status)
  | "$" => some (toString context.number)
  | "-" => some context.letters
  | "!" => context.lastJob.map toString
  | "@" | "*" => some (joined context)
  | _ =>
    match name.toNat? with
    | some 0 => some context.name
    | some position => context.arguments[position - 1]?
    | none => context.valueOf? name

/-- The glyphs of a parameter. The arguments become fields of their own where fields are made,
unless they are joined between quotes. -/
def glyphsOf (context : Context) (full quoted : Bool) (name : String) : List Glyph :=
  if full && isList name && !(quoted && name = "*") then
    [Glyph.boundary].intercalate
      (context.arguments.map fun arg => Glyph.ofValue quoted arg.toList)
  else Glyph.ofValue quoted ((parameter? context name).getD "").toList

def arithmeticMessage (expression : List Char) : Arithmetic.Problem → String
  | .illegalNumber text => "Illegal number: " ++ text
  | .expecting what => about ("expecting " ++ what)
  | .divisionByZero | .overflow => about "division by zero"
where
  /-- Adds the expression to a complaint. -/
  about (complaint : String) : String :=
    "arithmetic expression: " ++ complaint ++ ": \"" ++ String.ofList expression ++ "\""

/-- The number of the signal for a calculation that the machine does not accept. -/
def calculationSignal : Nat := 8

/-- The value of an expression, after which the variables have the values it gave them. -/
def calculate (expression : List Char) : Shell Int := do
  let before := (← get).bindings.filterMap fun (name, entry) => entry.value.map (name, ·)
  match Arithmetic.evaluate expression before with
  | .ok (value, after) =>
    let changes := (after.take (after.length - before.length)).reverse
    changes.forM fun (name, value) => Shell.assign name value
    return value
  | .error .overflow => throw (.killed calculationSignal)
  | .error problem => Shell.refuse (arithmeticMessage expression problem)

/-- The home directory of a user. Without a name, it is the one that a variable names. -/
def home? (context : Context) (user : List Char) : Option String :=
  if user.isEmpty then context.valueOf? "HOME"
  else if user = "root".toList then some "/root"
  else none

/-- The glyphs of unquoted text. Tildes stand for home directories at the beginning, if that is
allowed, and on demand after colons. The name after a tilde has to end within the text. The fuel is
the length of the text. -/
def glyphsOfText (home? : List Char → Option String) (colons isLast : Bool) :
    Nat → Bool → List Char → List Glyph
  | 0, _, _ | _, _, [] => []
  | fuel + 1, allowed, c :: rest =>
    let stops (c : Char) : Bool := c = '/' || (colons && c = ':')
    let user := rest.takeWhile fun c => !stops c
    let after := rest.drop user.length
    let home :=
      if allowed && c = '~' && (isLast || !after.isEmpty) then home? user else none
    match home with
    | some home =>
      home.toList.map (Glyph.char · .quoted) ++ glyphsOfText home? colons isLast fuel false after
    | none =>
      .char c .literal :: glyphsOfText home? colons isLast fuel (colons && c = ':') rest

mutual

/-- The glyphs of one piece that is no unquoted text. -/
def expandPiece (substitute : Substitute) (manner : Manner) : Piece → Shell (List Glyph)
  | .text quoted value => return Glyph.ofValue quoted value
  | .broken => Shell.refuse "Bad substitution"
  | .parameter quoted name => do
    let session ← get
    if session.has "nounset" && (parameter? session.toContext name).isNone then
      Shell.refuse (name ++ ": parameter not set")
    else return glyphsOf session.toContext manner.full quoted name
  | .changed quoted name change emptyToo word => do
    let session ← get
    let value := parameter? session.toContext name
    let missing := value.isNone || (emptyToo && value == some "")
    let text := (value.getD "").toList
    let itself := glyphsOf session.toContext manner.full quoted name
    let other : Shell (List Glyph) := do
      let glyphs ← expandPieces substitute manner true word
      return if quoted then .mark :: glyphs else Glyph.separable glyphs
    let needed : Shell Unit := do
      if value.isNone && session.has "nounset" then
        Shell.refuse (name ++ ": parameter not set")
    match change with
    | .orElse => if missing then other else return itself
    | .instead => if missing then return [] else other
    | .assign =>
      if !missing then return itself
      else
        let text := Glyph.plainText (← other)
        if !isName name.toList then Shell.refuse (name ++ ": bad variable name")
        Shell.assign name (String.ofList text)
        return Glyph.ofValue quoted text
    | .complain =>
      if !missing then return itself
      else
        let text := Glyph.plainText (← other)
        let text :=
          if !word.isEmpty then String.ofList text
          else if emptyToo then "parameter not set or null" else "parameter not set"
        Shell.refuse (name ++ ": " ++ text)
    | .count =>
      needed
      return Glyph.ofValue quoted (toString text.length).toList
    | .dropFront longest =>
      needed
      let target := Glyph.pattern (← expandPieces substitute .text true word)
      return Glyph.ofValue quoted (Pattern.dropFront longest target text)
    | .dropBack longest =>
      needed
      let target := Glyph.pattern (← expandPieces substitute .text true word)
      return Glyph.ofValue quoted (Pattern.dropBack longest target text)
  | .command quoted body => do
    let text := (← substitute body).toList.filter (· != '\x00')
    return Glyph.ofValue quoted (text.reverse.dropWhile (· == '\n')).reverse
  | .arithmetic quoted expression => do
    let text := Glyph.plainText (← expandPieces substitute .text false expression)
    return Glyph.ofValue quoted (toString (← calculate text)).toList

/-- The glyphs of some pieces. `allowed` says whether a tilde can stand for a home directory where
they begin. -/
def expandPieces (substitute : Substitute) (manner : Manner) :
    Bool → List Piece → Shell (List Glyph)
  | _, [] => return []
  | allowed, .text false value :: rest => do
    let home? := home? (← get).toContext
    let glyphs := glyphsOfText home? manner.colons rest.isEmpty value.length allowed value
    let ended := value.getLast? = some ':'
    let more ← expandPieces substitute manner (manner.colons && ended) rest
    return glyphs ++ more
  | _, piece :: rest => do
    let glyphs ← expandPiece substitute manner piece
    let more ← expandPieces substitute manner false rest
    return glyphs ++ more

end

/-- The one text that a word stands for where no fields and no paths are made. -/
def expandText (substitute : Substitute) (word : Word) : Shell String := do
  return String.ofList (Glyph.plainText (← expandPieces substitute .text true word))

def expandValue (substitute : Substitute) (word : Word) : Shell String := do
  return String.ofList (Glyph.plainText (← expandPieces substitute .value true word))

def expandPattern (substitute : Substitute) (word : Word) : Shell Pattern := do
  return Glyph.pattern (← expandPieces substitute .text true word)

/-- A path that fits so far, and the directory that it leads to. -/
structure Trail where
  path : String
  place : Place

/-- Goes one component further with paths that fit so far and lead to directories. -/
def extend (files : FileTree) (trails : List Trail) (component : Pattern) (isLast : Bool) :
    List Trail :=
  trails.flatMap fun trail =>
    let text := Pattern.literal component
    let hidden := text.head? = some '.'
    let names :=
      if !Pattern.isActive component then [String.ofList text]
      else
        ((if hidden then [".", ".."] else []) ++ files.names trail.place).filter fun name =>
          Pattern.isMatch component name.toList && (hidden || name.toList.head? != some '.')
    names.filterMap fun name =>
      let path := trail.path ++ name
      if isLast then
        let exist :=
          if name.isEmpty then files.node? trail.place = some .directory
          else (files.look trail.place name false).toBool
        if exist then some { path, place := [] } else none
      else if name.isEmpty then
        some { path := path ++ "/", place := if trail.path.isEmpty then [] else trail.place }
      else
        match files.find trail.place name with
        | .ok (place, .directory) => some { path := path ++ "/", place }
        | _ => none

def follow (files : FileTree) : List Trail → List Pattern → List Trail
  | trails, [] => trails
  | trails, [component] => extend files trails component true
  | trails, component :: rest => follow files (extend files trails component false) rest

/-- The paths that fit a pattern, in order. Without any, the pattern stands for itself. -/
def paths (files : FileTree) (directory : Place) (field : Pattern) : List String :=
  let itself := [String.ofList (field.map Prod.fst)]
  if !Pattern.isActive field then itself
  else
    let components := field.splitOnP fun (c, _) => c == '/'
    let found := follow files [{ path := "", place := directory }] components
    if found.isEmpty then itself else (found.map Trail.path).mergeSort fun a b => a ≤ b

def expandWord (substitute : Substitute) (word : Word) : Shell (List String) := do
  let glyphs ← expandPieces substitute .fields true word
  let session ← get
  let fields := Fields.ofGlyphs (separators session.toContext) glyphs
  return fields.flatMap fun field =>
    if session.has "noglob" then [String.ofList (field.map Prod.fst)]
    else paths session.machine.files session.directory field

def expandWords (substitute : Substitute) (words : List Word) : Shell (List String) := do
  return (← words.mapM (expandWord substitute)).flatten

end ToolGate.Host.Expansion
