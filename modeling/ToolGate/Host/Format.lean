import ToolGate.Host.Floating

/-!
Directives of a format text: how a number or a text is laid out in a field of some width. A
directive that is read from a format still has places for arguments in it; laying out starts when
those are known.
-/

namespace ToolGate.Host.Format

/-- A width or a precision, as it stands in a format. -/
inductive Extent where
  | absent
  | given (value : Nat)
  /-- An argument gives it. -/
  | argument
  deriving DecidableEq, Repr

/-- A directive as it stands in a format, from the percent sign on. -/
structure Directive where
  flags : List Char
  width : Extent
  precision : Extent
  /-- The letters that name the size of a number. -/
  sizes : List Char
  conversion : Option Char
  source : List Char
  deriving Repr

/-- The flags that every kind of format knows. -/
def commonFlags : List Char := ['#', '-', '+', ' ', '0']

def readExtent (text : List Char) : Extent × List Char :=
  match text with
  | '*' :: rest => (.argument, rest)
  | _ =>
    let (value, rest) := Numeral.readDigits 10 0 text
    (if rest.length < text.length then .given value else .absent, rest)

def readDirective (isFlag isSize : Char → Bool) (text : List Char) : Directive × List Char :=
  let flags := text.takeWhile isFlag
  let (width, rest) := readExtent (text.drop flags.length)
  let (precision, rest) :=
    match rest with
    | '.' :: rest =>
      let (precision, rest) := readExtent rest
      (if precision = Extent.absent then Extent.given 0 else precision, rest)
    | _ => (Extent.absent, rest)
  let sizes := rest.takeWhile isSize
  let rest := rest.drop sizes.length
  let after := rest.drop 1
  ({ flags, width, precision, sizes, conversion := rest.head?
     source := '%' :: text.take (text.length - after.length) }, after)

/-- How one value is laid out. -/
structure Layout where
  leftAligned : Bool
  zeros : Bool
  plus : Bool
  blank : Bool
  alternate : Bool
  width : Nat
  precision : Option Nat
  deriving Repr

/-- The layout of a directive, with the width and the precision that arguments give. A negative
width is a width with the text at its left end; a negative precision is none. -/
def Directive.layout (directive : Directive) (width precision : Option Int) : Layout :=
  let given : Extent → Option Int
    | .given value => some value
    | _ => none
  let width := (width.or (given directive.width)).getD 0
  let precision := precision.or (given directive.precision)
  { leftAligned := directive.flags.contains '-' || width < 0
    zeros := directive.flags.contains '0'
    plus := directive.flags.contains '+'
    blank := directive.flags.contains ' '
    alternate := directive.flags.contains '#'
    width := width.natAbs
    precision := (precision.filter (0 ≤ ·)).map Int.toNat }

namespace Layout

def fill (layout : Layout) (text : List Char) : List Char :=
  let gap := List.replicate (layout.width - text.length) ' '
  if layout.leftAligned then text ++ gap else gap ++ text

/-- Fills a number up to the width, with zeros after its sign where those are wanted. -/
def fillNumber (layout : Layout) (zeros : Bool) (lead digits : List Char) : List Char :=
  if zeros && !layout.leftAligned then
    lead ++ List.replicate (layout.width - lead.length - digits.length) '0' ++ digits
  else layout.fill (lead ++ digits)

def sign (layout : Layout) (negative : Bool) : List Char :=
  if negative then ['-'] else if layout.plus then ['+'] else if layout.blank then [' '] else []

def text (layout : Layout) (value : List Char) : List Char :=
  layout.fill (match layout.precision with
    | some count => value.take count
    | none => value)

/-- The digits of a number, at least as many as the precision asks for. -/
def digits (layout : Layout) (base value : Nat) : List Char :=
  let digits := if value = 0 then [] else Nat.toDigits base value
  List.replicate (layout.precision.getD 1 - digits.length) '0' ++ digits

def signed (layout : Layout) (value : Int) : List Char :=
  layout.fillNumber (layout.zeros && layout.precision.isNone) (layout.sign (value < 0))
    (layout.digits 10 value.natAbs)

/-- A number without a sign. In the alternate form its base can be seen. -/
def unsigned (layout : Layout) (base value : Nat) : List Char :=
  let digits := layout.digits base value
  let digits :=
    if base = 8 && layout.alternate && digits.head? != some '0' then '0' :: digits else digits
  let lead := if base = 16 && layout.alternate && value != 0 then ['0', 'x'] else []
  layout.fillNumber (layout.zeros && layout.precision.isNone) lead digits

def fraction (layout : Layout) (precision : Precision) (form : Char) : Floating → List Char
  | .notANumber negative => layout.fill (layout.sign negative ++ ['n', 'a', 'n'])
  | .infinite negative => layout.fill (layout.sign negative ++ ['i', 'n', 'f'])
  | .finite negative mantissa exponent =>
    let places := layout.precision.getD 6
    let lead := layout.sign negative
    let plain (digits : List Char) : List Char := layout.fillNumber layout.zeros lead digits
    match form with
    | 'f' => plain (Floating.showFixed places layout.alternate mantissa exponent)
    | 'e' => plain (Floating.showScientific places layout.alternate mantissa exponent)
    | 'g' => plain (Floating.showShorter places layout.alternate mantissa exponent)
    | _ =>
      let shown :=
        Floating.showHexadecimal precision layout.precision layout.alternate mantissa exponent
      layout.fillNumber layout.zeros (lead ++ shown.take 2) (shown.drop 2)

end Layout

end ToolGate.Host.Format
