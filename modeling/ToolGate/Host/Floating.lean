import ToolGate.Host.Numeral

/-!
Binary fractions as the programs of the host keep them: a whole number of some bits times a power
of two. Texts are read into the nearest such number, and numbers are written with as many decimal
places as are asked for. Both ways are exact up to one rounding to the nearest value, in which a
tie goes to the even neighbour.
-/

namespace ToolGate.Host

/-- The nearest whole number to a quotient, the even one of two. -/
def nearest (numerator denominator : Nat) : Nat :=
  let quotient := numerator / denominator
  let twice := 2 * (numerator % denominator)
  if denominator < twice || (twice = denominator && quotient % 2 = 1) then quotient + 1
  else quotient

/-- A kind of binary fractions: the number of bits, the least exponent, and the exponent of the
first power of two that is too large. -/
structure Precision where
  bits : Nat
  least : Int
  limit : Int
  deriving DecidableEq, Repr

namespace Precision

/-- Fractions of 53 bits. -/
def double : Precision := ⟨53, -1074, 1024⟩

/-- Fractions of 64 bits. -/
def extended : Precision := ⟨64, -16445, 16384⟩

end Precision

/-- A binary fraction, or one of the values beside them. A zero has a sign, too. -/
inductive Floating where
  | finite (negative : Bool) (mantissa : Nat) (exponent : Int)
  | infinite (negative : Bool)
  | notANumber (negative : Bool)
  deriving DecidableEq, Repr

namespace Floating

def twoTo (exponent : Int) : Nat × Nat :=
  if 0 ≤ exponent then (1 <<< exponent.toNat, 1) else (1, 1 <<< (-exponent).toNat)

def tenTo (exponent : Nat) : Nat := Nat.pow 10 exponent

/-- The binary fraction nearest to a quotient, and whether it lies outside of the range. -/
def ofQuotient (precision : Precision) (negative : Bool) (numerator denominator : Nat) :
    Floating × Bool :=
  if numerator = 0 then (.finite negative 0 0, false)
  else
    let scaled (exponent : Int) : Nat × Nat :=
      let (up, down) := twoTo exponent
      (numerator * down, denominator * up)
    let guess : Int := (numerator.log2 : Int) - denominator.log2 - precision.bits
    let isTooFine (exponent : Int) : Bool :=
      let (up, down) := scaled exponent
      (1 <<< precision.bits) * down ≤ up
    let exponent := if isTooFine guess then guess + 1 else guess
    let exponent := max precision.least exponent
    let (up, down) := scaled exponent
    let mantissa := nearest up down
    if precision.limit < exponent + mantissa.log2 + 1 then (.infinite negative, true)
    else if mantissa = 1 <<< precision.bits then
      (.finite negative (mantissa / 2) (exponent + 1), false)
    else
      let isSubnormal := mantissa < 1 <<< (precision.bits - 1)
      (.finite negative mantissa exponent, isSubnormal && mantissa * down != up)

/-- A number with a point: its digits as one number, how many of them stand after the point,
whether there are any, and what follows. -/
structure Digits where
  value : Nat
  places : Nat
  present : Bool
  rest : List Char

def readDigits (base : Nat) (text : List Char) : Digits :=
  let (whole, rest) := Numeral.readDigits base 0 text
  match rest with
  | '.' :: after =>
    let (value, rest) := Numeral.readDigits base whole after
    let places := after.length - rest.length
    let present := rest.length + 1 < text.length
    if present then ⟨value, places, true, rest⟩ else ⟨0, 0, false, text⟩
  | _ => ⟨whole, 0, rest.length < text.length, rest⟩

/-- Reads an exponent after its mark. Without digits there is none. -/
def readExponent (small large : Char) : List Char → Int × List Char
  | mark :: rest =>
    let (negative, digits) := Numeral.takeSign rest
    if (mark = small || mark = large) && Numeral.startsWithDigit 10 digits then
      let (value, rest) := Numeral.readDigits 10 0 digits
      (if negative then -value else value, rest)
    else (0, mark :: rest)
  | [] => (0, [])

def startsWithWord (word : String) (text : List Char) : Bool :=
  word.toList.isPrefixOf (text.map Char.toLower)

/-- A fraction that was read, whether it lies outside of the range, and what follows it. Where
there is none, the whole text follows zero. -/
structure Reading where
  value : Floating
  outOfRange : Bool
  rest : List Char

/-- An exponent that is far enough from zero to decide about the range, but not farther. -/
def bounded (exponent : Int) : Int := max (-40000) (min 40000 exponent)

def readDecimal (precision : Precision) (negative : Bool) (text : List Char) : Option Reading :=
  let digits := readDigits 10 text
  if !digits.present then none
  else
    let (exponent, rest) := readExponent 'e' 'E' digits.rest
    let exponent := bounded exponent - digits.places
    let (value, outOfRange) :=
      if 0 ≤ exponent then
        ofQuotient precision negative (digits.value * tenTo exponent.toNat) 1
      else ofQuotient precision negative digits.value (tenTo (-exponent).toNat)
    some ⟨value, outOfRange, rest⟩

def readHexadecimal (precision : Precision) (negative : Bool) (text : List Char) : Option Reading :=
  let digits := readDigits 16 text
  if !digits.present then none
  else
    let (exponent, rest) := readExponent 'p' 'P' digits.rest
    let (up, down) := twoTo (bounded exponent - 4 * digits.places)
    let (value, outOfRange) := ofQuotient precision negative (digits.value * up) down
    some ⟨value, outOfRange, rest⟩

/-- What follows the name of a value that is no number: letters in parentheses belong to it. -/
def afterNotANumber (text : List Char) : List Char :=
  match text with
  | '(' :: rest =>
    match rest.dropWhile fun c => c.isAlphanum || c = '_' with
    | ')' :: after => after
    | _ => text
  | _ => text

def read (precision : Precision) (text : List Char) : Reading :=
  let (negative, body) := Numeral.takeSign (text.dropWhile Numeral.isSpace)
  if startsWithWord "infinity" body then ⟨.infinite negative, false, body.drop 8⟩
  else if startsWithWord "inf" body then ⟨.infinite negative, false, body.drop 3⟩
  else if startsWithWord "nan" body then
    ⟨.notANumber negative, false, afterNotANumber (body.drop 3)⟩
  else
    let found? :=
      if startsWithWord "0x" body then
        (readHexadecimal precision negative (body.drop 2)).or (readDecimal precision negative body)
      else readDecimal precision negative body
    found?.getD ⟨.finite false 0 0, false, text⟩

/-- A fraction as a quotient. -/
def quotient (mantissa : Nat) (exponent : Int) : Nat × Nat :=
  let (up, down) := twoTo exponent
  (mantissa * up, down)

def padded (width value : Nat) : List Char :=
  let digits := Nat.toDigits 10 value
  List.replicate (width - digits.length) '0' ++ digits

/-- Digits with a point before the last ones of them. The point is left out where nothing follows
it, unless it is wanted. -/
def withPoint (places : Nat) (alternate : Bool) (digits : List Char) : List Char :=
  let whole := digits.length - places
  digits.take whole ++ (if places = 0 && !alternate then [] else '.' :: digits.drop whole)

def showFixed (places : Nat) (alternate : Bool) (mantissa : Nat) (exponent : Int) : List Char :=
  let (up, down) := quotient mantissa exponent
  withPoint places alternate (padded (places + 1) (nearest (up * tenTo places) down))

/-- The nearest number with some decimal digits to a fraction over a power of ten. -/
def scaledDigits (up down : Nat) (places : Nat) (power : Int) : Nat :=
  let shift := (places : Int) - power
  if 0 ≤ shift then nearest (up * tenTo shift.toNat) down
  else nearest up (down * tenTo (-shift).toNat)

/-- The power of ten of the first digit of a positive fraction, and the digits after it is rounded
to some places after the first one. -/
def scientific (places : Nat) (mantissa : Nat) (exponent : Int) : Int × Nat :=
  if mantissa = 0 then (0, 0)
  else
    let (up, down) := quotient mantissa exponent
    let guess : Int :=
      ((Nat.toDigits 10 up).length : Int) - (Nat.toDigits 10 down).length
    let reaches (power : Int) : Bool :=
      if 0 ≤ power then down * tenTo power.toNat ≤ up else down ≤ up * tenTo (-power).toNat
    let power := if reaches guess then guess else guess - 1
    let digits := scaledDigits up down places power
    if tenTo (places + 1) ≤ digits then (power + 1, scaledDigits up down places (power + 1))
    else (power, digits)

def showExponent (width : Nat) (power : Int) : List Char :=
  (if power < 0 then '-' else '+') :: padded width power.natAbs

/-- A fraction with one digit before the point, and a power of ten. -/
def showScientific (places : Nat) (alternate : Bool) (mantissa : Nat) (exponent : Int) :
    List Char :=
  let (power, digits) := scientific places mantissa exponent
  withPoint places alternate (padded (places + 1) digits) ++ 'e' :: showExponent 2 power

/-- Digits without zeros at their end, and without a point that nothing follows. -/
def trimmed (digits : List Char) : List Char :=
  if digits.contains '.' then
    let kept := digits.reverse.dropWhile (· == '0')
    (if kept.head? = some '.' then kept.tail else kept).reverse
  else digits

/-- A fraction with some significant digits, in whichever form is shorter. -/
def showShorter (digits : Nat) (alternate : Bool) (mantissa : Nat) (exponent : Int) : List Char :=
  let digits := max digits 1
  let (power, _) := scientific (digits - 1) mantissa exponent
  if power < -4 || (digits : Int) ≤ power then
    let shown := showScientific (digits - 1) alternate mantissa exponent
    let lead := shown.takeWhile (· != 'e')
    (if alternate then lead else trimmed lead) ++ shown.drop lead.length
  else
    let shown := showFixed ((digits : Int) - 1 - power).toNat alternate mantissa exponent
    if alternate then shown else trimmed shown

def hexDigit (value : Nat) : Char :=
  ((Nat.toDigits 16 value).head?).getD '0'

def hexDigits : Nat → Nat → List Char
  | 0, _ => []
  | count + 1, value => hexDigits count (value / 16) ++ [hexDigit (value % 16)]

/-- A fraction in base sixteen. The leading digit holds all bits of the mantissa that do not fill
whole digits, or a whole digit where they do. Below the normal fractions it stays small. -/
def showHexadecimal (precision : Precision) (places : Option Nat) (alternate : Bool)
    (mantissa : Nat) (exponent : Int) : List Char :=
  let digits := (precision.bits - 1) / 4
  let shift := if exponent ≤ precision.least then 0 else precision.bits - 1 - mantissa.log2
  let normal := if mantissa = 0 then 0 else mantissa <<< shift
  let leadBits := precision.bits - 4 * digits
  let power : Int :=
    if mantissa = 0 then 0 else exponent - shift + precision.bits - leadBits
  let all := hexDigits (digits + 1) normal
  let shown :=
    match places with
    | none => (all.reverse.dropWhile (· == '0')).reverse
    | some places =>
      if places < digits then
        hexDigits (places + 1) (nearest normal (1 <<< (4 * (digits - places))))
      else all ++ List.replicate (places - digits) '0'
  let shown := if shown.isEmpty then ['0'] else shown
  ['0', 'x'] ++ withPoint (shown.length - 1) alternate shown ++ 'p' :: showExponent 1 power

end Floating

end ToolGate.Host
