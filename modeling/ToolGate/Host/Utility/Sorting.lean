import ToolGate.Host.CharClass
import ToolGate.Host.Floating
import ToolGate.Host.Utility.Lines

/-!
The programs of the host that put lines in order, and that leave out lines which are repeated.
-/

namespace ToolGate.Host.Utility

/-- As what two texts are compared. -/
inductive Comparison where
  | text
  | number
  /-- A number in any notation. -/
  | general
  /-- A number with a unit of size. -/
  | human
  | month
  | version
  deriving DecidableEq, Repr

/-- Which characters count when texts are compared. -/
inductive Counted where
  | all
  /-- Letters, digits and blanks. -/
  | words
  | printed
  deriving DecidableEq, Repr

/-- How two texts are put in order. -/
structure Manner where
  comparison : Comparison := .text
  counted : Counted := .all
  folded : Bool := false
  reversed : Bool := false
  /-- Whether blanks before the start, and before the end, are passed over. -/
  skipsBefore : Bool := false
  skipsAfter : Bool := false
  deriving DecidableEq, Repr

namespace Manner

/-- A manner after a letter. The blanks are those before a start, before an end, or both. -/
def add? (starts ends : Bool) (manner : Manner) : Char → Option Manner
  | 'b' => some { manner with
      skipsBefore := manner.skipsBefore || starts
      skipsAfter := manner.skipsAfter || ends }
  | 'd' => some { manner with counted := .words }
  | 'f' => some { manner with folded := true }
  | 'g' => some { manner with comparison := .general }
  | 'h' => some { manner with comparison := .human }
  | 'i' => some { manner with
      counted := if manner.counted = .words then .words else .printed }
  | 'M' => some { manner with comparison := .month }
  | 'n' => some { manner with comparison := .number }
  | 'r' => some { manner with reversed := true }
  | 'V' => some { manner with comparison := .version }
  | 'R' => some manner
  | _ => none

def addAll (starts ends : Bool) (manner : Manner) : List Char → Manner × List Char
  | c :: rest =>
    match manner.add? starts ends c with
    | some manner => manner.addAll starts ends rest
    | none => (manner, c :: rest)
  | [] => (manner, [])

/-- Whether nothing has been said about the order, but for its direction. -/
def isPlain (manner : Manner) : Bool :=
  { manner with reversed := false } == ({} : Manner)

def orderOf (a b : List Char) : Ordering :=
  if a < b then .lt else if b < a then .gt else .eq

/-- A decimal number at the beginning of a text: its sign, its digits before the point without
leading zeros, and its digits after it without trailing zeros. -/
structure Decimal where
  negative : Bool
  whole : List Char
  fraction : List Char
  rest : List Char

def readDecimal (text : List Char) : Decimal :=
  let negative := text.head? = some '-'
  let text := if negative then text.tail else text
  let digits := text.takeWhile Char.isDigit
  let rest := text.drop digits.length
  let (fraction, rest) :=
    match rest with
    | '.' :: after => (after.takeWhile Char.isDigit, after.dropWhile Char.isDigit)
    | _ => ([], rest)
  let whole := digits.dropWhile (· = '0')
  let fraction := (fraction.reverse.dropWhile (· = '0')).reverse
  ⟨negative && !(whole.isEmpty && fraction.isEmpty), whole, fraction, rest⟩

def decimalOrder (a b : Decimal) : Ordering :=
  let size := (compare a.whole.length b.whole.length).then
    ((orderOf a.whole b.whole).then (orderOf a.fraction b.fraction))
  match a.negative, b.negative with
  | false, false => size
  | true, true => size.swap
  | true, false => .lt
  | false, true => .gt

/-- The place of a unit of size, counted from zero for none. -/
def unitRank (decimal : Decimal) : Int :=
  let units := [['K', 'k'], ['M'], ['G'], ['T'], ['P'], ['E'], ['Z'], ['Y']]
  let rank : Nat :=
    if decimal.whole.isEmpty && decimal.fraction.isEmpty then 0
    else
      match decimal.rest.head? with
      | some c => ((units.findIdx? (·.contains c)).map (· + 1)).getD 0
      | none => 0
  if decimal.negative then -(rank : Int) else (rank : Int)

def monthNumber (text : List Char) : Nat :=
  let months := ["JAN", "FEB", "MAR", "APR", "MAY", "JUN", "JUL", "AUG", "SEP", "OCT", "NOV", "DEC"]
  let start := String.ofList ((text.take 3).map Char.toUpper)
  ((months.findIdx? (· = start)).map (· + 1)).getD 0

/-- The order of two floating-point numbers in any notation. What is no number comes first, and what
is not a number comes before all numbers. -/
def generalOrder (a b : List Char) : Ordering :=
  let value? (text : List Char) : Option Floating :=
    let reading := Floating.read .extended text
    if reading.rest.length = text.length then none else some reading.value
  let rank : Option Floating → Nat
    | none => 0
    | some (.notANumber _) => 1
    | some (.infinite true) => 2
    | some (.finite ..) => 3
    | some (.infinite false) => 4
  let (a, b) := (value? a, value? b)
  match a, b with
  | some (.finite n1 m1 e1), some (.finite n2 m2 e2) =>
    let (u1, d1) := Floating.quotient m1 e1
    let (u2, d2) := Floating.quotient m2 e2
    let signed (negative : Bool) (value : Nat) : Int := if negative then -(value : Int) else value
    compare (signed n1 (u1 * d2)) (signed n2 (u2 * d1))
  | _, _ => compare (rank a) (rank b)

/-- The rank of a character in the order of versions. -/
def versionRank (c : Char) : Nat :=
  if c = '~' then 0
  else if c.isDigit then 1
  else if c.isAlpha then c.toNat + 2
  else c.toNat + 1000

/-- The order of the texts before the digits of two versions. -/
def versionLeadOrder : List Char → List Char → Ordering
  | [], [] => .eq
  | a :: as, b :: bs => (compare (versionRank a) (versionRank b)).then (versionLeadOrder as bs)
  | a :: _, [] => compare (versionRank a) 1
  | [], b :: _ => compare 1 (versionRank b)

/-- The order of two versions: texts and numbers in turn. The fuel is the length of both. -/
def versionOrder : Nat → List Char → List Char → Ordering
  | 0, _, _ => .eq
  | fuel + 1, a, b =>
    if a.isEmpty && b.isEmpty then .eq
    else
      let (leadA, leadB) := (a.takeWhile (!·.isDigit), b.takeWhile (!·.isDigit))
      let (a, b) := (a.drop leadA.length, b.drop leadB.length)
      let (numberA, numberB) := (a.takeWhile Char.isDigit, b.takeWhile Char.isDigit)
      let value (digits : List Char) : Nat := (Numeral.readDigits 10 0 digits).1
      (versionLeadOrder leadA leadB).then ((compare (value numberA) (value numberB)).then
        (versionOrder fuel (a.drop numberA.length) (b.drop numberB.length)))

/-- A text without the characters that do not count, in capitals if case does not matter. -/
def prepared (manner : Manner) (text : List Char) : List Char :=
  let isBlank (c : Char) : Bool := c = ' ' || c = '\t'
  let kept :=
    match manner.counted with
    | .all => text
    | .words => text.filter fun c => c.isAlphanum || isBlank c
    | .printed => text.filter fun c => ' ' ≤ c && c ≤ '~'
  if manner.folded then kept.map Char.toUpper else kept

def order (manner : Manner) (a b : List Char) : Ordering :=
  let (a, b) := (manner.prepared a, manner.prepared b)
  let skip (text : List Char) : List Char := text.dropWhile fun c => c = ' ' || c = '\t'
  let found :=
    match manner.comparison with
    | .text => orderOf a b
    | .number => decimalOrder (readDecimal (skip a)) (readDecimal (skip b))
    | .general => generalOrder a b
    | .human =>
      let (a, b) := (readDecimal (skip a), readDecimal (skip b))
      (compare (unitRank a) (unitRank b)).then (decimalOrder a b)
    | .month => compare (monthNumber (skip a)) (monthNumber (skip b))
    | .version => (versionOrder (a.length + b.length + 1) a b).then (orderOf a b)
  if manner.reversed then found.swap else found

/-- The letters of a manner, blanks and direction left out. -/
def letters (manner : Manner) : List Char :=
  let comparison :=
    match manner.comparison with
    | .general => ['g']
    | .human => ['h']
    | .month => ['M']
    | .number => ['n']
    | .version => ['V']
    | .text => []
  let words := if manner.counted = .words then ['d'] else []
  let printed := if manner.counted = .printed then ['i'] else []
  let folded := if manner.folded then ['f'] else []
  (words ++ folded ++ comparison ++ printed).mergeSort fun a b => a.toLower ≤ b.toLower

end Manner

/-- The part of lines by which they are put in order. Fields and characters count from zero. -/
structure SortField where
  /-- Where the part starts, if that is not the start of the line. -/
  start : Option (Nat × Nat)
  /-- The number of fields before the end and the number of characters after those, if the part
  does not reach the end of the line. -/
  stop : Option (Nat × Nat)
  manner : Manner

namespace SortField

def isGap (c : Char) : Bool := c = ' ' || c = '\t' || c = '\n'

/-- Passes over fields, each with the blanks before it. -/
def skipBlankFields : Nat → List Char → List Char
  | 0, text => text
  | count + 1, text => skipBlankFields count ((text.dropWhile isGap).dropWhile (!isGap ·))

/-- Passes over fields, each with the separator after it. -/
def skipFields (separator : Char) : Nat → List Char → List Char
  | 0, text => text
  | count + 1, text => skipFields separator count ((text.dropWhile (· != separator)).drop 1)

def skip (separator : Option Char) (count : Nat) (text : List Char) : List Char :=
  match separator with
  | some c => skipFields c count text
  | none => skipBlankFields count text

def fromStart (field : SortField) (separator : Option Char) (line : List Char) : List Char :=
  match field.start with
  | none => if field.manner.skipsBefore then line.dropWhile isGap else line
  | some (fields, chars) =>
    let rest := skip separator fields line
    (if field.manner.skipsBefore then rest.dropWhile isGap else rest).drop chars

def fromStop (field : SortField) (separator : Option Char) (line : List Char) : List Char :=
  match field.stop with
  | none => []
  | some (fields, 0) =>
    match separator with
    | none => skipBlankFields (fields + 1) line
    | some c => (skipFields c fields line).dropWhile (· != c)
  | some (fields, chars) =>
    let rest := skip separator fields line
    (if field.manner.skipsAfter then rest.dropWhile isGap else rest).drop chars

def of (field : SortField) (separator : Option Char) (line : List Char) : List Char :=
  let start := field.fromStart separator line
  start.take (start.length - (field.fromStop separator line).length)

end SortField

def fieldNumber (what : String) (text : List Char) : Except String (Nat × List Char) :=
  if Numeral.startsWithDigit 10 text then .ok (Numeral.readDigits 10 0 text)
  else
    .error (what ++ ": invalid count at start of " ++ Quotation.between (String.ofList text))

def readField (text : String) : Except String SortField := do
  let refuse (what : String) : Except String Unit :=
    .error (what ++ ": invalid field specification " ++ Quotation.between text)
  let (startField, rest) ← fieldNumber "invalid number at field start" text.toList
  if startField = 0 then refuse "field number is zero"
  let (startChar, rest) ←
    match rest with
    | '.' :: rest => fieldNumber "invalid number after '.'" rest
    | _ => pure (1, rest)
  if startChar = 0 then refuse "character offset is zero"
  let (manner, rest) := Manner.addAll true false {} rest
  let start := some (startField - 1, startChar - 1)
  match rest with
  | ',' :: rest =>
    let (stopField, rest) ← fieldNumber "invalid number after ','" rest
    if stopField = 0 then refuse "field number is zero"
    let (stopChar, rest) ←
      match rest with
      | '.' :: rest => fieldNumber "invalid number after '.'" rest
      | _ => pure (0, rest)
    let (manner, rest) := manner.addAll false true rest
    unless rest.isEmpty do refuse "stray character in field spec"
    return ⟨start, some (stopField - 1, stopChar), manner⟩
  | _ =>
    unless rest.isEmpty do refuse "stray character in field spec"
    return ⟨start, none, manner⟩

/-- How lines are put in order. -/
structure SortOrder where
  fields : List SortField
  separator : Option Char
  /-- The direction of whole lines. -/
  reversed : Bool
  stable : Bool
  unique : Bool

namespace SortOrder

def byFields (order : SortOrder) (a b : List Char) : Ordering :=
  order.fields.foldl (fun found field =>
    found.then (field.manner.order (field.of order.separator a) (field.of order.separator b))) .eq

def compare (order : SortOrder) (a b : List Char) : Ordering :=
  let whole := Manner.orderOf a b
  let whole := if order.reversed then whole.swap else whole
  if order.fields.isEmpty then whole
  else if order.unique || order.stable then order.byFields a b
  else (order.byFields a b).then whole

/-- Leaves out the lines that are equal to the one before. -/
def withoutRepeats (order : SortOrder) : List (List Char) → List (List Char)
  | first :: second :: rest =>
    if order.compare first second == .eq then order.withoutRepeats (first :: rest)
    else first :: order.withoutRepeats (second :: rest)
  | lines => lines
termination_by lines => lines.length

def sort (order : SortOrder) (lines : List (List Char)) : List (List Char) :=
  let sorted := lines.mergeSort fun a b => order.compare a b != .gt
  if order.unique then order.withoutRepeats sorted else sorted

/-- Takes the first lines of two lists in turn, as their order says. -/
def merge (order : SortOrder) : List (List Char) → List (List Char) → List (List Char)
  | a :: as, b :: bs =>
    if order.compare a b == .gt then b :: order.merge (a :: as) bs
    else a :: order.merge as (b :: bs)
  | [], lines | lines, [] => lines
termination_by first second => first.length + second.length

/-- The number and the text of the first line that is out of order. -/
def disorder? (order : SortOrder) : Nat → List (List Char) → Option (Nat × List Char)
  | number, first :: second :: rest =>
    let found := order.compare first second
    if found == .gt || (order.unique && found == .eq) then some (number + 1, second)
    else order.disorder? (number + 1) (second :: rest)
  | _, _ => none

end SortOrder

def sortForms : List Form := [
  .both 'b' "ignore-leading-blanks", .both 'd' "dictionary-order", .both 'f' "ignore-case",
  .both 'g' "general-numeric-sort", .both 'h' "human-numeric-sort", .both 'i' "ignore-nonprinting",
  .both 'M' "month-sort", .both 'n' "numeric-sort", .both 'R' "random-sort",
  .both 'V' "version-sort", .both 'r' "reverse", .long "sort" .required,
  .long "check" .optional, .short 'c', .short 'C', .both 'k' "key" .required, .both 'm' "merge",
  .both 'o' "output" .required, .both 's' "stable", .both 'S' "buffer-size" .required,
  .both 't' "field-separator" .required, .both 'T' "temporary-directory" .required,
  .long "parallel" .required, .both 'u' "unique", .both 'z' "zero-terminated"]

/-- The letters of the options that say how lines are compared. -/
def mannerLetters (given : List Given) : Work (List Char) := do
  let letters ← given.mapM fun option =>
    if option.key = "sort" then
      choose 2 "sort" (option.value.getD "") [
        (["general-numeric"], ['g']), (["human-numeric"], ['h']), (["month"], ['M']),
        (["numeric"], ['n']), (["random"], ['R']), (["version"], ['V'])]
    else
      return ((sortForms.find? fun form => form.key = option.key).bind Form.letter).toList.filter
        "bdfghiMnRVr".toList.contains
  return letters.flatten

def readSeparator (given : List Given) : Work (Option Char) := do
  match value? given "field-separator" with
  | none => return none
  | some "" => Work.refuse 2 "empty tab"
  | some "\\0" => return some '\x00'
  | some text =>
    match text.toList with
    | [c] => return some c
    | _ => Work.refuse 2 ("multi-character tab " ++ Quotation.between text)

/-- Refuses manners that contradict themselves. -/
def checkManner (letters : List Char) : Work Unit := do
  let kinds := letters.eraseDups.filter ['g', 'h', 'M', 'n', 'R', 'V'].contains
  let counted := letters.eraseDups.filter ['d', 'i'].contains
  let both := kinds.length + (if counted.isEmpty || kinds == ['R'] then 0 else 1)
  if 1 < both then
    let shown := (letters.eraseDups.filter fun c => c != 'b' && c != 'r').mergeSort fun a b =>
      a.toLower ≤ b.toLower
    Work.refuse 2 ("options '-" ++ String.ofList shown ++ "' are incompatible")

def readOrder (given : List Given) : Work SortOrder := do
  let letters ← mannerLetters given
  let (whole, _) := Manner.addAll true true {} letters
  let separator ← readSeparator given
  let fields ← (given.filter fun option => option.key = "key").mapM fun option => do
    let text := option.value.getD ""
    match readField text with
    | .error problem => Work.refuse 2 problem
    | .ok field =>
      checkManner (text.toList.filter Char.isAlpha)
      if field.manner == {} then return { field with manner := whole } else return field
  if fields.isEmpty then checkManner letters
  let fields := if fields.isEmpty && !whole.isPlain then [⟨none, none, whole⟩] else fields
  return {
    fields, separator
    reversed := whole.reversed
    stable := has given "stable"
    unique := has given "unique" }

/-- Reads the files that are to be sorted. One that cannot be read ends the program. -/
def readSorted (ending : Char) (paths : List String) : Work (List (List (List Char))) :=
  paths.mapM fun path => do
    match ← Work.contentOrInput path with
    | .ok text => return lines ending text
    | .error error =>
      let what :=
        if error = .isDirectory then "read failed: "
        else if path = "-" then "stat failed: "
        else "cannot read: "
      Work.refuse 2 (what ++ Quotation.mention path ++ ": " ++ Work.reason error)

/-- Whether the order is only checked, and whether it is reported. -/
def readCheck (given : List Given) : Work (Option Bool) :=
  lastCheck given.reverse
where
  /-- The last option that asks for a check. -/
  lastCheck : List Given → Work (Option Bool)
    | [] => return none
    | ⟨"c", _⟩ :: _ => return some true
    | ⟨"C", _⟩ :: _ => return some false
    | ⟨"check", value⟩ :: _ => do
      return some (← choose 2 "check" (value.getD "diagnose-first") [
        (["quiet", "silent"], false), (["diagnose-first"], true)])
    | _ :: rest => lastCheck rest

def sort : Utility := fun args => do
  let (given, paths) ← options 2 sortForms args
  let order ← readOrder given
  let ending := endOf given "zero-terminated"
  let paths := sources paths
  match ← readCheck given with
  | some reported =>
    let letter := if reported then "c" else "C"
    if let _ :: extra :: _ := paths then
      Work.misuse 2 ("extra operand " ++ Quotation.between extra ++ " not allowed with -" ++ letter)
    if has given "output" then Work.refuse 2 ("options '-" ++ letter ++ "o' are incompatible")
    match order.disorder? 1 (← readSorted ending paths).flatten with
    | none => return 0
    | some (number, line) =>
      if reported then
        Work.complain (paths.headD "" ++ ":" ++ toString number ++ ": disorder: " ++
          String.ofList line)
      return 1
  | none =>
    let read ← readSorted ending paths
    let sorted :=
      if has given "merge" then
        let merged := read.foldl order.merge []
        if order.unique then order.withoutRepeats merged else merged
      else order.sort read.flatten
    let text := String.ofList (sorted.flatMap fun line => line ++ [ending])
    match value? given "output" with
    | none =>
      Work.say text
      return 0
    | some path =>
      match ← Work.save path text .fresh with
      | .ok () => return 0
      | .error error =>
        Work.refuse 2 ("open failed: " ++ Quotation.mention path ++ ": " ++ Work.reason error)

/-- Which lines are written, and how. -/
structure Repeats where
  counted : Bool
  /-- Lines that are not repeated are written. -/
  single : Bool
  /-- Lines that are repeated are written. -/
  repeated : Bool
  /-- Repeated lines are written as often as they are there. -/
  every : Bool

/-- Lines that are equal to each other stand together. -/
def runs (isEqual : List Char → List Char → Bool) : List (List Char) → List (List (List Char))
  | [] => []
  | line :: rest =>
    match runs isEqual rest with
    | (next :: run) :: others =>
      if isEqual line next then (line :: next :: run) :: others
      else [line] :: (next :: run) :: others
    | others => [line] :: others

def Repeats.text (repeats : Repeats) (ending : Char) (run : List (List Char)) : List Char :=
  let wanted := if run.length = 1 then repeats.single else repeats.repeated
  let shown := if repeats.every then run else run.take 1
  if !wanted then []
  else
    shown.flatMap fun line =>
      let digits := toString run.length
      let count := if repeats.counted then "".pushn ' ' (7 - digits.length) ++ digits ++ " " else ""
      count.toList ++ line ++ [ending]

def numberOf (given : List Given) (key what : String) : Work (Option Nat) := do
  match value? given key with
  | none => return none
  | some text =>
    match count? text with
    | some count => return some count
    | none => Work.refuse 1 (text ++ ": invalid number of " ++ what)

/-- Passes over fields, each with the blanks before it. -/
def withoutFields : Nat → List Char → List Char
  | 0, line => line
  | count + 1, line =>
    let isBlank (c : Char) : Bool := c = ' ' || c = '\t'
    withoutFields count ((line.dropWhile isBlank).dropWhile (!isBlank ·))

def uniq : Utility := fun args => do
  let (given, paths) ← options 1 [
    .both 'c' "count", .both 'd' "repeated", .short 'D', .long "all-repeated" .optional,
    .both 'f' "skip-fields" .required, .long "group" .optional, .both 'i' "ignore-case",
    .both 's' "skip-chars" .required, .both 'u' "unique", .both 'w' "check-chars" .required,
    .both 'z' "zero-terminated"] args
  let fields := (← numberOf given "skip-fields" "fields to skip").getD 0
  let chars := (← numberOf given "skip-chars" "bytes to skip").getD 0
  let width ← numberOf given "check-chars" "bytes to compare"
  if let _ :: _ :: extra :: _ := paths then
    Work.misuse 1 ("extra operand " ++ Quotation.between extra)
  let every := has given "D" || has given "all-repeated"
  if every && has given "count" then
    Work.misuse 1 "printing all duplicated lines and repeat counts is meaningless"
  let repeats : Repeats := {
    counted := has given "count"
    single := !(has given "repeated" || every)
    repeated := !has given "unique"
    every }
  let ending := endOf given "zero-terminated"
  let source := paths.headD "-"
  match ← Work.contentOrInput source with
  | .error error =>
    if error = .isDirectory then Work.blame "error reading" source error
    else complainOf source error
    return 1
  | .ok text =>
    let part (line : List Char) : List Char :=
      let rest := (withoutFields fields line).drop chars
      let rest := width.elim rest rest.take
      if has given "ignore-case" then rest.map Char.toUpper else rest
    let runs := runs (fun a b => part a == part b) (lines ending text)
    let text := String.ofList (runs.flatMap (repeats.text ending))
    match paths with
    | _ :: target :: _ =>
      if target = "-" then
        Work.say text
        return 0
      else
        match ← Work.save target text .fresh with
        | .ok () => return 0
        | .error error =>
          complainOf target error
          return 1
    | _ =>
      Work.say text
      return 0

end ToolGate.Host.Utility
