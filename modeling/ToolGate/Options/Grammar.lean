import ToolGate.Text.Styled

/-!
What a command line may hold: options with two dashes or one, and words in fixed places. A grammar
also knows how it is shown to a user, as a usage line and as a help text.
-/

namespace ToolGate.Options

open ToolGate.Text (Styled)

/-- What an option is for. -/
inductive OptionKind where
  /-- An option without a value that may be given once. -/
  | switch
  /-- An option with a value. -/
  | value (placeholder : String) (repeatable emptyAllowed : Bool)
  /-- Asks for the help text. -/
  | help
  /-- Asks for the version. -/
  | version
  deriving DecidableEq, Repr

/-- An option, with its long name, its letter if it has one, and a line about it. -/
structure OptionSpec where
  long : String
  short : Option Char := none
  kind : OptionKind
  about : String
  deriving DecidableEq, Repr

namespace OptionSpec

def argument (option : OptionSpec) : String :=
  match option.kind with
  | .value placeholder _ _ => " <" ++ placeholder ++ ">"
  | _ => ""

def display (option : OptionSpec) : String :=
  "--" ++ option.long ++ option.argument

def usage (option : OptionSpec) : Styled :=
  Styled.of .literal ("--" ++ option.long) ++ (option.argument : Styled)

/-- Whether an option sets something, and does not ask for a text. -/
def isSetting (option : OptionSpec) : Bool :=
  match option.kind with
  | .switch | .value _ _ _ => true
  | .help | .version => false

def isRepeatable (option : OptionSpec) : Bool :=
  match option.kind with
  | .value _ repeatable _ => repeatable
  | _ => false

def allowsEmpty (option : OptionSpec) : Bool :=
  match option.kind with
  | .value _ _ emptyAllowed => emptyAllowed
  | _ => false

end OptionSpec

/-- A place for words that are no options. -/
structure WordSpec where
  name : String
  required : Bool
  repeated : Bool
  about : String
  deriving DecidableEq, Repr

def WordSpec.display (word : WordSpec) : String :=
  (if word.required then "<" ++ word.name ++ ">" else "[" ++ word.name ++ "]") ++
    (if word.repeated then "..." else "")

/-- The form of a command line. Each of the leading places takes one word. The first word after
them, and everything that follows it, belongs to the trailing place and is not read for options. -/
structure Grammar where
  command : String
  version : String
  about : Option String
  leading : List WordSpec
  trailing : WordSpec
  options : List OptionSpec
  /-- Pairs of options that exclude each other, by their long names. -/
  conflicts : List (String × String)
  /-- Whether an empty command line is a request for help. -/
  helpWhenEmpty : Bool

namespace Grammar

def findLong? (grammar : Grammar) (name : List Char) : Option OptionSpec :=
  grammar.options.find? fun option => option.long.toList == name

def findShort? (grammar : Grammar) (letter : Char) : Option OptionSpec :=
  grammar.options.find? fun option => option.short == some letter

def places (grammar : Grammar) : List WordSpec :=
  grammar.leading ++ [grammar.trailing]

def usageLine (grammar : Grammar) (parts : List Styled) : Styled :=
  Styled.intercalate " "
    (Styled.of .header "Usage:" :: Styled.of .literal grammar.command :: parts)

/-- The usage line that names some options and all places. -/
def usage (grammar : Grammar) (options : List OptionSpec) : Styled :=
  grammar.usageLine (options.map OptionSpec.usage ++ grammar.places.map (Styled.of .plain ·.display))

def generalUsage (grammar : Grammar) : Styled :=
  grammar.usageLine ("[OPTIONS]" :: grammar.places.map (Styled.of .plain ·.display))

def alternatives (grammar : Grammar) : String :=
  "<" ++ String.intercalate "|" ((grammar.options.filter OptionSpec.isSetting).map OptionSpec.display
    ++ grammar.places.map WordSpec.name) ++ ">"

/-- The usage line that names one option and leaves open what else there is. An option that is one
of the alternatives is not named apart from them. -/
def openUsage (grammar : Grammar) (option : OptionSpec) : Styled :=
  grammar.usageLine
    ((if option.isSetting then [] else [option.usage]) ++ [(grammar.alternatives : Styled)])

/-- An option's column in the help text, before it is aligned. -/
def column (option : OptionSpec) : Styled :=
  match option.short with
  | some letter => Styled.of .literal ("-" ++ String.singleton letter) ++ (", " : Styled) ++ option.usage
  | none => ("    " : Styled) ++ option.usage

def table (rows : List (Styled × String)) : Styled :=
  let width := (rows.map (·.1.length)).foldl max 0
  Styled.join (rows.map fun row =>
    ("  " : Styled) ++ row.1 ++
      (String.ofList (List.replicate (width - row.1.length + 2) ' ') ++ row.2 ++ "\n" : Styled))

def help (grammar : Grammar) : Styled :=
  let about :=
    match grammar.about with
    | some text => text ++ "\n\n"
    | none => ""
  Styled.join [about, grammar.generalUsage, "\n\n",
    Styled.of .header "Arguments:", "\n",
    table (grammar.places.map fun word => (word.display, word.about)), "\n",
    Styled.of .header "Options:", "\n",
    table (grammar.options.map fun option => (column option, option.about))]

def versionText (grammar : Grammar) : Styled :=
  grammar.command ++ " " ++ grammar.version ++ "\n"

end Grammar

end ToolGate.Options
