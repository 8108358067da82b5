import ToolGate.Host.Escapes
import ToolGate.Host.Format
import ToolGate.Host.Quotation

/-!
Printing by a format. The format is gone through as often as it takes to use up the arguments, and
an argument that does not fit its directive is complained about. The shell and the program of the
host do that in dialects of their own.
-/

namespace ToolGate.Host

/-- A part of what a command prints. -/
inductive Print where
  | text (value : List Char)
  | complaint (message : String)
  deriving Repr

structure Printed where
  prints : List Print
  status : Nat
  deriving Repr

namespace Printed

def text (printed : Printed) : String :=
  String.ofList (printed.prints.flatMap fun
    | .text value => value
    | .complaint _ => [])

def complaints (printed : Printed) : List String :=
  printed.prints.filterMap fun
    | .text _ => none
    | .complaint message => some message

end Printed

namespace Printing

/-- The arguments that are left, and what has been printed, the last part first. -/
structure Sheet where
  arguments : List String
  prints : List Print := []
  status : Nat := 0

abbrev Printer : Type → Type := ExceptT Unit (StateM Sheet)

def emit (text : List Char) : Printer Unit :=
  modify fun sheet => { sheet with prints := .text text :: sheet.prints }

def warn (message : String) : Printer Unit :=
  modify fun sheet => { sheet with prints := .complaint message :: sheet.prints }

def complain (message : String) : Printer Unit := do
  warn message
  modify fun sheet => { sheet with status := 1 }

def finish {α : Type} (status : Nat) : Printer α := do
  modify fun sheet => { sheet with status }
  throw ()

def refuse {α : Type} (status : Nat) (message : String) : Printer α := do
  warn message
  finish status

def next? : Printer (Option String) := do
  let sheet ← get
  set { sheet with arguments := sheet.arguments.tail }
  return sheet.arguments.head?

/-- How formats and arguments are read. -/
structure Dialect where
  isFlag : Char → Bool
  isSize : Char → Bool
  /-- The kind of the fractions. -/
  precision : Precision
  /-- Prints what a sequence after a backslash stands for, and gives what follows it. -/
  sequence : List Char → Printer (List Char)
  /-- The number that an argument stands for, with or without a sign. -/
  integer : Bool → String → Printer Int
  /-- The fraction that an argument stands for. -/
  fraction : String → Printer Floating
  /-- Prints by a directive that has a meaning in this dialect only, or complains about it. -/
  other : Format.Directive → Format.Layout → Printer Unit
  /-- Whether the dialect has a meaning of its own for a directive that others share. -/
  isOwn : Format.Directive → Bool

/-- The number that a star in a directive stands for. -/
def extent (dialect : Dialect) (extent : Format.Extent) : Printer (Option Int) := do
  if extent = .argument then
    match ← next? with
    | some arg => return some (← dialect.integer true arg)
    | none => return some 0
  else return none

def printDirective (dialect : Dialect) (directive : Format.Directive) : Printer Unit := do
  let width ← extent dialect directive.width
  let precision ← extent dialect directive.precision
  let layout := directive.layout width precision
  let integer (signed : Bool) : Printer Int := do
    match ← next? with
    | some arg => dialect.integer signed arg
    | none => return 0
  let unsigned (base : Nat) : Printer (List Char) := do
    return layout.unsigned base (← integer false).toNat
  if dialect.isOwn directive then dialect.other directive layout
  else
    match directive.conversion.getD '\x00' with
    | 's' => emit (layout.text ((← next?).getD "").toList)
    | 'c' => emit (layout.fill [((← next?).getD "").toList.headD '\x00'])
    | 'd' | 'i' => emit (layout.signed (← integer true))
    | 'u' => emit (← unsigned 10)
    | 'o' => emit (← unsigned 8)
    | 'x' => emit (← unsigned 16)
    | 'X' => emit ((← unsigned 16).map Char.toUpper)
    | form =>
      if ['a', 'e', 'f', 'g'].contains form.toLower then
        let value ←
          match ← next? with
          | some arg => dialect.fraction arg
          | none => pure (.finite false 0 0)
        let shown := layout.fraction dialect.precision form.toLower value
        emit (if form.isUpper then shown.map Char.toUpper else shown)
      else dialect.other directive layout

/-- Goes through a format once. The fuel is its length and one more. -/
def printOnce (dialect : Dialect) : Nat → List Char → Printer Unit
  | 0, _ => return
  | _ + 1, [] => return
  | fuel + 1, '%' :: '%' :: rest => do
    emit ['%']
    printOnce dialect fuel rest
  | fuel + 1, '%' :: rest => do
    let (directive, after) := Format.readDirective dialect.isFlag dialect.isSize rest
    printDirective dialect directive
    printOnce dialect fuel after
  | fuel + 1, '\\' :: rest => do
    let after ← dialect.sequence rest
    printOnce dialect fuel after
  | fuel + 1, c :: rest => do
    let plain := rest.takeWhile fun d => d != '%' && d != '\\'
    emit (c :: plain)
    printOnce dialect fuel (rest.drop plain.length)

/-- Goes through a format until no arguments are left, or as long as it uses some. The fuel is their
number and one more. -/
def printAll (dialect : Dialect) (format : List Char) : Nat → Printer Unit
  | 0 => return
  | fuel + 1 => do
    let before := (← get).arguments.length
    printOnce dialect (format.length + 1) format
    let after := (← get).arguments.length
    if 0 < after && after < before then printAll dialect format fuel

def print (dialect : Dialect) (atEnd : Printer Unit) (format : String) (args : List String) :
    Printed :=
  let action : Printer Unit := do
    printAll dialect format.toList (args.length + 1)
    atEnd
  let sheet := ((action.run).run { arguments := args }).2
  { prints := sheet.prints.reverse, status := sheet.status }

def quoted? (arg : String) : Option (Option Char) :=
  match arg.toList with
  | mark :: rest => if mark = '\'' || mark = '"' then some rest.head? else none
  | [] => none

def outOfRange : String := "Numerical result out of range"

namespace Shell

/-- Complains about what an argument holds beside a number. -/
def check (arg : String) (rest : List Char) (fits : Bool) : Printer Unit :=
  if !rest.isEmpty then
    if rest.length = arg.length then complain (arg ++ ": expected numeric value")
    else complain (arg ++ ": not completely converted")
  else if !fits then complain (arg ++ ": " ++ outOfRange)
  else return

def integer (signed : Bool) (arg : String) : Printer Int := do
  match quoted? arg with
  | some c? => return (c?.map Char.toNat).getD 0
  | none =>
    let numeral := Numeral.read 0 arg.toList
    check arg numeral.rest
      (if signed then Numeral.isSigned numeral.value else Numeral.isUnsigned numeral.value)
    return if signed then Numeral.signed numeral.value else Numeral.unsigned numeral.value

def fraction (arg : String) : Printer Floating := do
  match quoted? arg with
  | some c? => return .finite false ((c?.map Char.toNat).getD 0) 0
  | none =>
    let reading := Floating.read .double arg.toList
    check arg reading.rest (!reading.outOfRange)
    return reading.value

def other (directive : Format.Directive) (layout : Format.Layout) : Printer Unit := do
  match directive.conversion with
  | some 'b' =>
    let (text, ended) := Escapes.expandAll ((← next?).getD "")
    emit (layout.text text)
    if ended then throw ()
  | some _ => refuse 2 (String.ofList directive.source ++ ": invalid directive")
  | none => refuse 2 "missing format character"

def dialect : Dialect where
  isFlag := Format.commonFlags.contains
  isSize _ := false
  precision := .double
  sequence text := do
    let (meaning, after) := Escapes.inShell text
    emit [meaning]
    return after
  integer := integer
  fraction := fraction
  other := other
  isOwn directive := directive.conversion = some 'b'

end Shell

namespace Program

def check (arg : String) (rest : List Char) (fits : Bool) : Printer Unit :=
  let name := Quotation.between arg
  if !fits then complain (name ++ ": " ++ outOfRange)
  else if !rest.isEmpty then
    if rest.length = arg.length then complain (name ++ ": expected a numeric value")
    else complain (name ++ ": value not completely converted")
  else return

/-- The octet after a quote. What follows it is passed over with a warning. -/
def character? (arg : String) : Printer (Option Nat) := do
  match quoted? arg with
  | some (some c) =>
    unless arg.length = 2 do
      warn ("warning: " ++ String.ofList (arg.toList.drop 2) ++
        ": character(s) following character constant have been ignored")
    return some c.toNat
  | _ => return none

def integer (signed : Bool) (arg : String) : Printer Int := do
  match ← character? arg with
  | some value => return value
  | none =>
    let numeral := Numeral.read 0 arg.toList
    check arg numeral.rest
      (if signed then Numeral.isSigned numeral.value else Numeral.isUnsigned numeral.value)
    return if signed then Numeral.signed numeral.value else Numeral.unsigned numeral.value

def fraction (arg : String) : Printer Floating := do
  match ← character? arg with
  | some value => return .finite false value 0
  | none =>
    let reading := Floating.read .extended arg.toList
    check arg reading.rest (!reading.outOfRange)
    return reading.value

def hexadecimal (count : Nat) (text : List Char) : Printer (Nat × List Char) := do
  let digits := text.take count
  if digits.length = count && digits.all fun c => (Numeral.digit? 16 c).isSome then
    return ((Numeral.readDigits 16 0 digits).1, text.drop count)
  else refuse 1 "missing hexadecimal number in escape"

/-- Prints the character with a number, or else the number itself. -/
def universal (letter : Char) (count : Nat) (text : List Char) : Printer (List Char) := do
  let (value, after) ← hexadecimal count text
  let digits (width : Nat) (digits : List Char) : List Char :=
    List.replicate (width - digits.length) '0' ++ digits
  if 0xd800 ≤ value && value ≤ 0xdfff then
    refuse 1 ("invalid universal character name \\" ++
      String.ofList (letter :: digits count (Nat.toDigits 16 value)))
  if value < 0x80 then emit [Char.ofNat value]
  else
    let shown := (Nat.toDigits 16 value).map Char.toUpper
    if value < 0x10000 then emit ('\\' :: 'u' :: digits 4 shown)
    else emit ('\\' :: 'U' :: digits 8 shown)
  return after

/-- Prints what a sequence after a backslash stands for. `afterZero` says whether a zero before
octal digits is one more digit. -/
def sequence (afterZero : Bool) (text : List Char) : Printer (List Char) := do
  match text with
  | 'c' :: _ => finish 0
  | '"' :: rest => emit ['"']; return rest
  | 'x' :: rest =>
    if Numeral.startsWithDigit 16 rest then
      let (meaning, after) := Escapes.takeDigits 16 2 rest
      emit [meaning]
      return after
    else refuse 1 "missing hexadecimal number in escape"
  | 'u' :: rest => universal 'u' 4 rest
  | 'U' :: rest => universal 'U' 8 rest
  | c :: rest =>
    match Escapes.letter? c with
    | some meaning => emit [meaning]; return rest
    | none =>
      if Escapes.isOctal c then
        let (meaning, after) :=
          Escapes.takeDigits 8 3 (if afterZero && c = '0' then rest else c :: rest)
        emit [meaning]
        return after
      else emit ['\\', c]; return rest
  | [] => emit ['\\']; return []

/-- Prints an argument with its sequences expanded. The fuel is its length and one more. -/
def printExpanded : Nat → List Char → Printer Unit
  | 0, _ => return
  | _ + 1, [] => return
  | fuel + 1, '\\' :: rest => do
    let after ← sequence true rest
    printExpanded fuel after
  | fuel + 1, c :: rest => do
    emit [c]
    printExpanded fuel rest

/-- The flags that a conversion cannot stand with. -/
def unfitFlags (conversion : Char) : List Char :=
  (if ['a', 'A', 'c', 'e', 'E', 'o', 's', 'x', 'X'].contains conversion then ['\'', 'I'] else []) ++
    (if ['c', 'd', 'i', 's', 'u'].contains conversion then ['#'] else []) ++
    (if ['c', 's'].contains conversion then ['0'] else [])

def isValid (directive : Format.Directive) : Bool :=
  match directive.conversion with
  | some conversion =>
    ['a', 'A', 'c', 'd', 'e', 'E', 'f', 'F', 'g', 'G', 'i', 'o', 's', 'u', 'x', 'X'].contains
        conversion &&
      !(directive.flags.any (unfitFlags conversion).contains) &&
      !(conversion = 'c' && directive.precision != .absent)
  | none => false

/-- Prints an argument with its sequences expanded, or as a shell would read it back. -/
def other (directive : Format.Directive) (_ : Format.Layout) : Printer Unit := do
  match directive.source with
  | ['%', 'b'] =>
    let text := ((← next?).getD "").toList
    printExpanded (text.length + 1) text
  | ['%', 'q'] =>
    match ← next? with
    | some arg => emit (Quotation.forShell arg).toList
    | none => return
  | source => refuse 1 (String.ofList source ++ ": invalid conversion specification")

def dialect : Dialect where
  isFlag c := Format.commonFlags.contains c || c = '\'' || c = 'I'
  isSize := ['l', 'L', 'h', 'j', 't', 'z'].contains
  precision := .extended
  sequence := sequence false
  integer := integer
  fraction := fraction
  other := other
  isOwn directive := !isValid directive

def warnOfExcess : Printer Unit := do
  match (← get).arguments with
  | [] => return
  | arg :: _ =>
    warn ("warning: ignoring excess arguments, starting with " ++ Quotation.between arg)

end Program

end Printing

def shellPrint (format : String) (args : List String) : Printed :=
  Printing.print Printing.Shell.dialect (return) format args

def programPrint (format : String) (args : List String) : Printed :=
  Printing.print Printing.Program.dialect Printing.Program.warnOfExcess format args

end ToolGate.Host
