import ToolGate.Host.Numeral
import ToolGate.Host.Utility.Options

/-!
What the programs of the host that work on texts share: the lines of a text, amounts with units, and
the files that they read.
-/

namespace ToolGate.Host.Utility

/-- The lines of a text, each with the character that ends it. The last one may lack it. -/
def pieces (ending : Char) : List Char → List (List Char)
  | [] => []
  | c :: rest =>
    if c = ending then [c] :: pieces ending rest
    else
      match pieces ending rest with
      | [] => [[c]]
      | first :: others => (c :: first) :: others

def withoutEnd (ending : Char) (line : List Char) : List Char :=
  if line.getLast? = some ending then line.dropLast else line

def lines (ending : Char) (text : String) : List (List Char) :=
  (pieces ending text.toList).map (withoutEnd ending)

def endOf (given : List Given) (key : String) : Char :=
  if has given key then '\x00' else '\n'

def sizeUnit? (suffix : String) : Option Nat :=
  let powers := ["K", "M", "G", "T", "P", "E", "Z", "Y"]
  let power? (base : Nat) (ending : String) : Option Nat :=
    (powers.findIdx? fun letter => letter ++ ending = suffix).map fun index =>
      Nat.pow base (index + 1)
  match suffix with
  | "" => some 1
  | "b" => some 512
  | "k" => some 1024
  | "kB" => some 1000
  | "m" => some (1024 * 1024)
  | _ => (power? 1024 "").or ((power? 1024 "iB").or (power? 1000 "B"))

def amount? (text : String) : Option Nat :=
  let digits := (text.toList.dropWhile Numeral.isSpace)
  let digits := if digits.head? = some '+' then digits.tail else digits
  if Numeral.startsWithDigit 10 digits then
    let (value, rest) := Numeral.readDigits 10 0 digits
    (sizeUnit? (String.ofList rest)).map (value * ·)
  else none

def count? (text : String) : Option Nat :=
  if !text.isEmpty && text.all Char.isDigit then
    some (Numeral.readDigits 10 0 text.toList).1
  else none

/-- Whether what a process does not read of a channel stays there for others. -/
def Channel.keepsRest (channel : Channel) : Bool :=
  match channel with
  | .text index => index = 0
  | _ => true

/-- The names of the files that a program reads: those that it is given, or else the standard
input. -/
def sources (paths : List String) : List String :=
  if paths.isEmpty then ["-"] else paths

def complainOf (path : String) (error : OsError) : Work Unit :=
  Work.complain (Quotation.mention path ++ ": " ++ Work.reason error)

end ToolGate.Host.Utility
