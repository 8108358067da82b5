import ToolGate.Host.Numeral

/-!
Backslash sequences in texts that are printed. The shell and the programs of the host read them by
rules of their own, which share the letters and the octal numbers.
-/

namespace ToolGate.Host.Escapes

def letter? : Char → Option Char
  | 'a' => some '\x07'
  | 'b' => some '\x08'
  | 'e' => some '\x1b'
  | 'f' => some '\x0c'
  | 'n' => some '\n'
  | 'r' => some '\r'
  | 't' => some '\t'
  | 'v' => some '\x0b'
  | '\\' => some '\\'
  | _ => none

/-- Takes some digits at most, and gives the character of eight bits that they number. -/
def takeDigits (base count : Nat) (text : List Char) : Char × List Char :=
  let digits := (text.takeWhile fun c => (Numeral.digit? base c).isSome).take count
  let (value, _) := Numeral.readDigits base 0 digits
  (Char.ofNat (value % 256), text.drop digits.length)

def isOctal (c : Char) : Bool := (Numeral.digit? 8 c).isSome

/-- What a sequence stands for, as the shell reads it after the backslash: a letter, or up to three
octal digits. Before anything else the backslash stands for itself. -/
def inShell : List Char → Char × List Char
  | [] => ('\\', [])
  | c :: rest =>
    match letter? c with
    | some meaning => (meaning, rest)
    | none => if isOctal c then takeDigits 8 3 (c :: rest) else ('\\', c :: rest)

/-- The text of an argument with sequences, and whether one of them ended all output. More octal
digits may follow a zero. The fuel is the length of the text and one more. -/
def expand : Nat → List Char → List Char × Bool
  | 0, _ => ([], false)
  | _ + 1, [] => ([], false)
  | _ + 1, '\\' :: 'c' :: _ => ([], true)
  | fuel + 1, '\\' :: rest =>
    let (meaning, after) :=
      match rest with
      | '0' :: c :: more => if isOctal c then inShell (c :: more) else inShell rest
      | _ => inShell rest
    let (more, ended) := expand fuel after
    (meaning :: more, ended)
  | fuel + 1, c :: rest =>
    let (more, ended) := expand fuel rest
    (c :: more, ended)

/-- The text of an argument of the shell's commands, and whether it ends all output. -/
def expandAll (text : String) : List Char × Bool :=
  expand (text.length + 1) text.toList

/-- What the shell's `echo` prints. A first argument `-n` leaves out the newline. -/
def shellEcho (args : List String) : String :=
  let (newline, args) :=
    match args with
    | "-n" :: rest => (false, rest)
    | _ => (true, args)
  let (text, ended) := expandAll (String.intercalate " " args)
  String.ofList (text ++ if newline && !ended then ['\n'] else [])

/-- The text of an argument of the `echo` program, and whether one of its sequences ended all
output. The fuel is the length of the text and one more. -/
def expandProgram : Nat → List Char → List Char × Bool
  | 0, _ => ([], false)
  | _ + 1, [] => ([], false)
  | _ + 1, ['\\'] => (['\\'], false)
  | _ + 1, '\\' :: 'c' :: _ => ([], true)
  | fuel + 1, '\\' :: c :: rest =>
    let (meaning, after) :=
      match letter? c with
      | some meaning => ([meaning], rest)
      | none =>
        if c = 'x' && Numeral.startsWithDigit 16 rest then
          let (meaning, after) := takeDigits 16 2 rest
          ([meaning], after)
        else if isOctal c then
          let (meaning, after) := takeDigits 8 3 (if c = '0' then rest else c :: rest)
          ([meaning], after)
        else (['\\', c], rest)
    let (more, ended) := expandProgram fuel after
    (meaning ++ more, ended)
  | fuel + 1, c :: rest =>
    let (more, ended) := expandProgram fuel rest
    (c :: more, ended)

/-- What the `echo` program prints: its options are letters `n`, `e` and `E`, and backslash
sequences count only after `e`. -/
def programEcho (args : List String) : String :=
  let isOption (arg : String) : Bool :=
    match arg.toList with
    | '-' :: c :: rest => (c :: rest).all fun c => c = 'n' || c = 'e' || c = 'E'
    | _ => false
  let options := args.takeWhile isOption
  let letters := options.flatMap fun option => option.toList.drop 1
  let text := (String.intercalate " " (args.drop options.length)).toList
  let sequences := (letters.filter (· != 'n')).getLast? == some 'e'
  let (text, ended) := if sequences then expandProgram (text.length + 1) text else (text, false)
  String.ofList (text ++ if letters.contains 'n' || ended then [] else ['\n'])

end ToolGate.Host.Escapes
