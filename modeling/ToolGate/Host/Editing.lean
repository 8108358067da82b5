import ToolGate.Host.Regex

/-!
Scripts that edit a stream of lines: commands, the lines that they apply to, and what they put in
the place of what they find.
-/

namespace ToolGate.Host.Editing

/-- How an expression is searched for. The expression that was searched for last can be meant. -/
structure Search where
  regex : Option Regex
  /-- Lines begin and end within the text, too. -/
  byLines : Bool := false

/-- A line that a command applies to, or the first one of some. -/
inductive Spot where
  | line (number : Nat)
  /-- Every so many lines after a first one. -/
  | every (first step : Nat)
  | last
  | found (search : Search)

/-- The last line of those that a command applies to. -/
inductive Bound where
  | line (number : Nat)
  | last
  | found (search : Search)
  /-- So many lines after the first one. -/
  | after (count : Nat)
  /-- The next line whose number is a multiple. -/
  | multiple (number : Nat)

/-- The lines that a command applies to. -/
structure Address where
  first : Spot
  bound : Option Bound

/-- How letters are changed where they are put in. -/
inductive Casing where
  | upper
  | lower
  | nextUpper
  | nextLower
  | plain
  deriving DecidableEq, Repr

/-- A part of what is put in. -/
inductive Part where
  | text (chars : List Char)
  /-- What a group has matched, or the whole match. -/
  | group (index : Nat)
  | casing (change : Casing)
  deriving Repr

/-- How matches are replaced. -/
structure Replacement where
  search : Search
  parts : List Part
  /-- The number of the first match that is replaced. -/
  first : Nat := 1
  /-- All later matches are replaced, too. -/
  all : Bool := false
  printed : Bool := false
  /-- The file that gets the line. -/
  target : Option String := none

/-- When a command goes on elsewhere. -/
inductive Condition where
  | always
  | replaced
  | notReplaced
  deriving DecidableEq, Repr

/-- What a command does. `Label` is the type of what it can go on at. -/
inductive Deed (Label : Type) where
  /-- Begins a block. If the command does not apply, it goes on after the block. -/
  | openBlock (stop : Label)
  | closeBlock
  | label
  | jump (condition : Condition) (target : Option Label)
  | appendText (text : List Char)
  | insertText (text : List Char)
  | changeText (text : List Char)
  | delete
  /-- Deletes the first line and starts again with what is left. -/
  | deleteFirst
  | print
  | printFirst
  | next
  | appendNext
  | getHeld
  | appendHeld
  | hold
  | appendToHeld
  | exchange
  | number
  | fileName
  | clear
  | list (width : Option Nat)
  | quit (code : Nat) (silent : Bool)
  | readFile (path : String)
  | writeFile (path : String)
  | writeFirst (path : String)
  | replace (replacement : Replacement)
  | transliterate (pairs : List (Char × Char))

structure Command (Label : Type) where
  address : Option Address
  negated : Bool
  deed : Deed Label

end ToolGate.Host.Editing
