/-!
Whole numbers at the beginning of a text, as the programs of the host read them: blanks, a sign, a
mark for the base, and digits. What follows the number is left to the reader.
-/

namespace ToolGate.Host

/-- A number, and what follows it. Where there are no digits, the whole text follows the number
zero. -/
structure Numeral where
  value : Int
  rest : List Char
  deriving DecidableEq, Repr

namespace Numeral

def isSpace (c : Char) : Bool :=
  [' ', '\t', '\n', '\x0b', '\x0c', '\r'].contains c

/-- The value of a digit, letters in either case included. -/
def digitValue? (c : Char) : Option Nat :=
  if c.isDigit then some (c.toNat - '0'.toNat)
  else if 'a' ≤ c && c ≤ 'z' then some (c.toNat - 'a'.toNat + 10)
  else if 'A' ≤ c && c ≤ 'Z' then some (c.toNat - 'A'.toNat + 10)
  else none

def digit? (base : Nat) (c : Char) : Option Nat :=
  (digitValue? c).filter (· < base)

def readDigits (base : Nat) : Nat → List Char → Nat × List Char
  | value, c :: rest =>
    match digit? base c with
    | some digit => readDigits base (value * base + digit) rest
    | none => (value, c :: rest)
  | value, [] => (value, [])

def startsWithDigit (base : Nat) (text : List Char) : Bool :=
  text.head?.any fun c => (digit? base c).isSome

/-- The base that digits are written in, and the digits without the mark of the base. Base 0 stands
for the base that the digits show: hexadecimal after `0x`, binary after `0b`, octal after another
zero, and decimal. -/
def baseOf (base : Nat) (text : List Char) : Nat × List Char :=
  match text with
  | '0' :: mark :: rest =>
    if (base = 0 || base = 16) && (mark = 'x' || mark = 'X') && startsWithDigit 16 rest then
      (16, rest)
    else if base = 0 && (mark = 'b' || mark = 'B') && startsWithDigit 2 rest then (2, rest)
    else (if base = 0 then 8 else base, text)
  | _ => (if base = 0 then 10 else base, text)

def takeSign : List Char → Bool × List Char
  | '-' :: rest => (true, rest)
  | '+' :: rest => (false, rest)
  | text => (false, text)

def read (base : Nat) (text : List Char) : Numeral :=
  let (negative, digits) := takeSign (text.dropWhile isSpace)
  let (base, digits) := baseOf base digits
  if startsWithDigit base digits then
    let (value, rest) := readDigits base 0 digits
    ⟨if negative then -value else value, rest⟩
  else ⟨0, text⟩

/-- The number of values that a word of the machine has. -/
def wordCount : Int := 0x10000000000000000

def maxSigned : Int := 0x7fffffffffffffff

def minSigned : Int := -0x8000000000000000

def signed (value : Int) : Int := max minSigned (min maxSigned value)

def isSigned (value : Int) : Bool := minSigned ≤ value && value ≤ maxSigned

/-- The unsigned word for a number. A negative number counts from the end of the range; one that is
too large in either direction becomes the greatest word. -/
def unsigned (value : Int) : Int :=
  if wordCount ≤ value || value ≤ -wordCount then wordCount - 1
  else if value < 0 then value + wordCount
  else value

def isUnsigned (value : Int) : Bool := -wordCount < value && value < wordCount

/-- The signed word with the same bits as a number. -/
def wrap (value : Int) : Int :=
  let low := value % wordCount
  if low ≤ maxSigned then low else low - wordCount

/-- The signed word that a whole text stands for. Blanks may stand around it, and in base 0 a text
of blanks is zero. -/
def whole? (base : Nat) (text : String) : Option Int :=
  let numeral := read base text.toList
  let isMissing := numeral.rest.length = text.length && base ≠ 0
  if isMissing || !numeral.rest.all isSpace || !isSigned numeral.value then none
  else some numeral.value

end Numeral

end ToolGate.Host
