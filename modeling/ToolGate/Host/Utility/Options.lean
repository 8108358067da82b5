import ToolGate.Host.Work

/-!
The options of programs: letters after one dash, and words after two. Words can be shortened as long
as they stay clear, and options may stand behind other arguments unless a program wants them first.
-/

namespace ToolGate.Host.Utility

/-- Whether an option has an argument. -/
inductive Demand where
  | none
  | required
  | optional
  deriving DecidableEq, Repr

structure Form where
  letter : Option Char
  word : Option String
  demand : Demand := .none
  deriving Repr

namespace Form

/-- The name by which programs know an option: its word, or else its letter. -/
def key (form : Form) : String :=
  form.word.getD (form.letter.elim "" String.singleton)

def both (letter : Char) (word : String) (demand : Demand := .none) : Form :=
  ⟨some letter, some word, demand⟩

def short (letter : Char) (demand : Demand := .none) : Form :=
  ⟨some letter, none, demand⟩

def long (word : String) (demand : Demand := .none) : Form :=
  ⟨none, some word, demand⟩

end Form

/-- An option that has been given. -/
structure Given where
  key : String
  value : Option String := none
  deriving DecidableEq, Repr

def commonForms : List Form := [Form.long "help", Form.long "version"]

/-- What is wrong with an option. -/
inductive Misuse where
  | unknownLetter (letter : Char)
  | unknownWord (text : String)
  | ambiguous (text : String) (words : List String)
  | letterWantsValue (letter : Char)
  | wordWantsValue (word : String)
  | wordRefusesValue (word : String)
  deriving DecidableEq, Repr

def Misuse.message : Misuse → String
  | .unknownLetter letter => "invalid option -- '" ++ String.singleton letter ++ "'"
  | .unknownWord text => "unrecognized option '--" ++ text ++ "'"
  | .ambiguous text words =>
    "option '--" ++ text ++ "' is ambiguous; possibilities:" ++
      String.join (words.map fun word => " '--" ++ word ++ "'")
  | .letterWantsValue letter =>
    "option requires an argument -- '" ++ String.singleton letter ++ "'"
  | .wordWantsValue word => "option '--" ++ word ++ "' requires an argument"
  | .wordRefusesValue word => "option '--" ++ word ++ "' doesn't allow an argument"

/-- Reads the letters after a dash. Where the last one wants a value, that is the next argument. -/
def readLetters (forms : List Form) (next : Option String) :
    List Given → List Char → Except Misuse (List Given × Bool)
  | given, [] => .ok (given, false)
  | given, letter :: rest =>
    match forms.find? fun form => form.letter = some letter with
    | none => .error (.unknownLetter letter)
    | some form =>
      let attached := { key := form.key, value := some (String.ofList rest) }
      match form.demand with
      | .none => readLetters forms next (given ++ [{ key := form.key }]) rest
      | .optional => .ok (given ++ [if rest.isEmpty then { key := form.key } else attached], false)
      | .required =>
        if !rest.isEmpty then .ok (given ++ [attached], false)
        else
          match next with
          | some value => .ok (given ++ [{ key := form.key, value := some value }], true)
          | none => .error (.letterWantsValue letter)

def findWord (forms : List Form) (text : String) : Except Misuse Form :=
  match forms.find? fun form => form.word = some text with
  | some form => .ok form
  | none =>
    let fitting := forms.filter fun form => form.word.any fun word => word.startsWith text
    match fitting with
    | [] => .error (.unknownWord text)
    | [form] => .ok form
    | _ => .error (.ambiguous text (fitting.filterMap Form.word))

def readWord (forms : List Form) (next : Option String) (text : String) :
    Except Misuse (Given × Bool) := do
  let name := String.ofList (text.toList.takeWhile (· != '='))
  let value := if name.length < text.length then
    some (String.ofList (text.toList.drop (name.length + 1))) else none
  let form ← (findWord forms name).mapError fun
    | .unknownWord _ => .unknownWord text
    | .ambiguous _ words => .ambiguous text words
    | misuse => misuse
  let word := form.word.getD ""
  match form.demand, value, next with
  | .none, some _, _ => .error (.wordRefusesValue word)
  | .required, none, none => .error (.wordWantsValue word)
  | .required, none, some value => .ok ({ key := form.key, value := some value }, true)
  | _, value, _ => .ok ({ key := form.key, value }, false)

/-- Reads options among arguments. `mixed` says whether they may stand behind other ones. -/
def readOptions (forms : List Form) (mixed : Bool) :
    List Given → List String → List String → Except Misuse (List Given × List String)
  | given, others, [] => .ok (given, others)
  | given, others, arg :: rest =>
    match arg.toList with
    | ['-', '-'] => .ok (given, others ++ rest)
    | '-' :: '-' :: text => do
      let (option, taken) ← readWord forms rest.head? (String.ofList text)
      match taken, rest with
      | true, _ :: rest => readOptions forms mixed (given ++ [option]) others rest
      | _, rest => readOptions forms mixed (given ++ [option]) others rest
    | '-' :: letter :: letters => do
      let (given, taken) ← readLetters forms rest.head? given (letter :: letters)
      match taken, rest with
      | true, _ :: rest => readOptions forms mixed given others rest
      | _, rest => readOptions forms mixed given others rest
    | _ =>
      if mixed then readOptions forms mixed given (others ++ [arg]) rest
      else .ok (given, others ++ arg :: rest)

/-- The options that have been given, and the other arguments. A wrong option ends the program. -/
def options (code : Nat) (forms : List Form) (args : List String) (mixed : Bool := true) :
    Work (List Given × List String) :=
  match readOptions (forms ++ commonForms) mixed [] [] args with
  | .ok result => return result
  | .error misuse => Work.misuse code misuse.message

def has (given : List Given) (key : String) : Bool :=
  given.any fun option => option.key = key

def value? (given : List Given) (key : String) : Option String :=
  ((given.filter fun option => option.key = key).getLast?).bind Given.value

/-- The end of a line, which can be marked by a NUL character. -/
def lineEnd (given : List Given) (key : String) : String :=
  if has given key then "\x00" else "\n"

/-- The one of some options that has been given last. -/
def last? (given : List Given) (keys : List String) : Option String :=
  ((given.filter fun option => keys.contains option.key).getLast?).map Given.key

/-- The meaning of the value of an option, which is one of some words, or the beginning of one. Each
meaning can have several words. Another value ends the program. -/
def choose {α : Type} (code : Nat) (option value : String) (choices : List (List String × α)) :
    Work α := do
  let words := choices.flatMap Prod.fst
  let fits (choice : List String × α) : Bool :=
    if words.contains value then choice.1.contains value
    else choice.1.any fun word => word.startsWith value
  match choices.filter fits with
  | [choice] => return choice.2
  | fitting =>
    let fault := if fitting.isEmpty then "invalid" else "ambiguous"
    Work.complain (fault ++ " argument " ++ Quotation.between value ++ " for " ++
      Quotation.between ("--" ++ option))
    Work.mutter "Valid arguments are:"
    choices.forM fun choice =>
      Work.mutter ("  - " ++ String.intercalate ", " (choice.1.map Quotation.between))
    Work.hint code

/-- The first argument, of which there has to be one. -/
def needOperand (code : Nat) (what : String) : List String → Work (List String)
  | [] => Work.misuse code ("missing " ++ what)
  | operands => return operands

end ToolGate.Host.Utility
