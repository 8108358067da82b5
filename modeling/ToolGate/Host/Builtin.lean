import ToolGate.CommandLine.VariableName
import ToolGate.Host.Session

/-!
The commands that are part of the shell, and how they read their arguments: options that are single
letters, and natural numbers.
-/

namespace ToolGate.Host

/-- A command of the shell: from its arguments to its status. -/
abbrev Builtin : Type := List String → Shell Nat

namespace Builtin

def greatest : Int := 0x7fffffff

def natural (text : String) : Shell Nat :=
  match (Numeral.whole? 10 text).filter fun value => 0 ≤ value && value ≤ greatest with
  | some value => return value.toNat
  | none => Shell.refuse ("Illegal number: " ++ text)

/-- The number in the first argument, or another one if there is none. -/
def naturalOr (other : Nat) : List String → Shell Nat
  | [] => return other
  | text :: _ => natural text

/-- What the letters after a dash say. -/
inductive Letters where
  | unknown (letter : Char)
  | complete (given : List (Char × String))
  /-- The last letter has its argument in the next word. -/
  | waiting (given : List (Char × String)) (letter : Char)

/-- Reads the letters after a dash. The kind of a letter says whether it has an argument. -/
def readLetters (kind? : Char → Option Bool) : List (Char × String) → List Char → Letters
  | given, [] => .complete given
  | given, letter :: rest =>
    match kind? letter with
    | none => .unknown letter
    | some false => readLetters kind? (given ++ [(letter, "")]) rest
    | some true =>
      if rest.isEmpty then .waiting given letter
      else .complete (given ++ [(letter, String.ofList rest)])

def readOptions (kind? : Char → Option Bool) :
    List (Char × String) → List String → Shell (List (Char × String) × List String)
  | given, [] => return (given, [])
  | given, arg :: rest =>
    match arg.toList with
    | ['-', '-'] => return (given, rest)
    | '-' :: letter :: letters =>
      match readLetters kind? given (letter :: letters) with
      | .unknown letter => Shell.refuse ("Illegal option -" ++ String.singleton letter)
      | .complete given => readOptions kind? given rest
      | .waiting given letter =>
        match rest with
        | value :: rest => readOptions kind? (given ++ [(letter, value)]) rest
        | [] => Shell.refuse ("No arg for -" ++ String.singleton letter ++ " option")
    | _ => return (given, arg :: rest)

/-- The options at the beginning of some arguments, and the other arguments. Of the letters, `plain`
ones stand for themselves, and the others have an argument. -/
def options (plain withArgument : String) (args : List String) :
    Shell (List (Char × String) × List String) :=
  let kind? (letter : Char) : Option Bool :=
    if plain.toList.contains letter then some false
    else if withArgument.toList.contains letter then some true
    else none
  readOptions kind? [] args

def operands (args : List String) : Shell (List String) := do
  return (← options "" "" args).2

def isGiven (letter : Char) (given : List (Char × String)) : Bool :=
  given.any fun option => option.1 = letter

def definition (arg : String) : String × Option String :=
  let name := arg.toList.takeWhile (· != '=')
  if name.length < arg.length then
    (String.ofList name, some (String.ofList (arg.toList.drop (name.length + 1))))
  else (arg, none)

def checkName (name : String) : Shell Unit := do
  unless CommandLine.isName name.toList do Shell.refuse (name ++ ": bad variable name")

end Builtin

end ToolGate.Host
