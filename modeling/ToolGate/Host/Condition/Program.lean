import ToolGate.Host.Condition
import ToolGate.Host.Numeral
import ToolGate.Host.Quotation

/-!
Conditions as the `test` program checks them. The number of words decides how up to four of them are
read; more words are read by a grammar in which negation binds tightest, then `-a`, then `-o`.
-/

namespace ToolGate.Host.Condition.Program

/-- Why a condition makes no sense. -/
inductive Problem where
  | missingAfter (word : String)
  | unaryExpected (word : String)
  | binaryExpected (word : String)
  | extra (word : String)
  | invalidInteger (text : String)
  | closingExpected (found : Option String)
  deriving DecidableEq, Repr

def Problem.message : Problem → String
  | .missingAfter word => "missing argument after " ++ Quotation.between word
  | .unaryExpected word => Quotation.between word ++ ": unary operator expected"
  | .binaryExpected word => Quotation.between word ++ ": binary operator expected"
  | .extra word => "extra argument " ++ Quotation.between word
  | .invalidInteger text => "invalid integer " ++ Quotation.between text
  | .closingExpected none => "')' expected"
  | .closingExpected (some found) => "')' expected, found " ++ Quotation.between found

def readNumber (text : String) : Except Problem Int :=
  let (negative, digits) := Numeral.takeSign (text.toList.dropWhile Numeral.isSpace)
  let (value, rest) := Numeral.readDigits 10 0 digits
  if rest.length < digits.length && rest.all Numeral.isSpace then
    .ok (if negative then -value else value)
  else .error (.invalidInteger text)

def isBinary (word : String) : Bool :=
  (comparison? word).isSome || ["=", "==", "!=", "-nt", "-ot", "-ef"].contains word

/-- The words that are left, the first of which is the next one; the word before it; and the last
one of all. -/
structure Cursor where
  rest : List String
  last : String

abbrev Reader : Type → Type := StateT Cursor (Except Problem)

def next : Reader String := do
  let cursor ← get
  match cursor.rest with
  | word :: rest =>
    set { cursor with rest }
    return word
  | [] => throw (.missingAfter cursor.last)

/-- Takes a word after which there has to be another one. -/
def nextBeforeMore : Reader String := do
  let word ← next
  let cursor ← get
  if cursor.rest.isEmpty then throw (.missingAfter cursor.last) else return word

/-- One word: whether it is not empty. -/
def oneWord : Reader Bool := do
  return !(← next).isEmpty

def looksUnary (word : String) : Bool :=
  word.length = 2 && word.startsWith "-"

def unary (view : View) : Reader Bool := do
  let operator := (← get).rest.headD ""
  if operator = "-t" then
    let _ ← nextBeforeMore
    let _ ← readNumber (← next)
    return false
  else if operator = "-a" || operator = "-N" then
    let _ ← nextBeforeMore
    return (view.find? (← next)).isSome && operator = "-a"
  else if (unary? view operator "").isSome then
    let _ ← nextBeforeMore
    return (unary? view operator (← next)).getD false
  else throw (.unaryExpected operator)

/-- A number, or the length of a text after `-l`. -/
def operand (isLength : Bool) (text : String) : Except Problem Int :=
  if isLength then .ok text.length else readNumber text

def binary (view : View) : Reader Bool := do
  let cursor ← get
  let leftLength :=
    cursor.rest.head? = some "-l" && isBinary (cursor.rest.getD 2 "") && 4 ≤ cursor.rest.length
  if leftLength then
    let _ ← next
  let a ← next
  let operator ← next
  let rightLength := (← get).rest.head? = some "-l" && 2 ≤ (← get).rest.length
  match comparison? operator with
  | some compare =>
    if rightLength then
      let _ ← next
    let b ← next
    return compare (← operand leftLength a) (← operand rightLength b)
  | none =>
    let b ← next
    match operator with
    | "=" | "==" => return a == b
    | "!=" => return a != b
    | "-nt" => return (view.find? a).isSome && (view.find? b).isNone
    | "-ot" => return (view.find? a).isNone && (view.find? b).isSome
    | _ => return view.same a b

mutual

def counted (view : View) : Nat → Nat → Reader Bool
  | 0, _ => oneWord
  | fuel + 1, count => do
    let rest := (← get).rest
    let first := rest.headD ""
    match count with
    | 0 | 1 => oneWord
    | 2 =>
      if first = "!" then
        let _ ← next
        return !(← oneWord)
      else if looksUnary first then unary view
      else throw (.missingAfter (← get).last)
    | 3 =>
      let second := rest.getD 1 ""
      if isBinary second then binary view
      else if first = "!" then
        let _ ← nextBeforeMore
        return !(← counted view fuel 2)
      else if first = "(" && rest.getD 2 "" = ")" then
        let _ ← next
        let value ← oneWord
        let _ ← next
        return value
      else if second = "-a" || second = "-o" then disjunction view fuel
      else throw (.binaryExpected second)
    | 4 =>
      if first = "!" then
        let _ ← nextBeforeMore
        return !(← counted view fuel 3)
      else if first = "(" && rest.getD 3 "" = ")" then
        let _ ← next
        let value ← counted view fuel 2
        let _ ← next
        return value
      else disjunction view fuel
    | _ => disjunction view fuel

def disjunction (view : View) : Nat → Reader Bool
  | 0 => oneWord
  | fuel + 1 => do
    let a ← conjunction view fuel
    if (← get).rest.head? = some "-o" then
      let _ ← next
      let b ← disjunction view fuel
      return a || b
    else return a

def conjunction (view : View) : Nat → Reader Bool
  | 0 => oneWord
  | fuel + 1 => do
    let a ← term view fuel
    if (← get).rest.head? = some "-a" then
      let _ ← next
      let b ← conjunction view fuel
      return a && b
    else return a

def term (view : View) : Nat → Reader Bool
  | 0 => oneWord
  | fuel + 1 => do
    let rest := (← get).rest
    match rest with
    | [] => throw (.missingAfter (← get).last)
    | "!" :: _ =>
      let _ ← nextBeforeMore
      return !(← term view fuel)
    | "(" :: inner =>
      let _ ← nextBeforeMore
      let closing := (inner.drop 1).idxOf ")" + 1
      let value ← counted view fuel (if closing ≤ 4 then min closing inner.length else inner.length)
      match (← get).rest with
      | ")" :: _ =>
        let _ ← next
        return value
      | found => throw (.closingExpected found.head?)
    | first :: second :: third :: more =>
      if (first = "-l" && isBinary third && !more.isEmpty) || isBinary second then binary view
      else if looksUnary first then unary view
      else oneWord
    | first :: _ => if looksUnary first then unary view else oneWord

end

def evaluate (view : View) (words : List String) : Except Problem Bool := do
  if words.isEmpty then return false
  else
    let reader := counted view (8 * words.length + 8) words.length
    let (value, cursor) ← reader.run { rest := words, last := words.getLastD "" }
    match cursor.rest with
    | [] => return value
    | word :: _ => .error (.extra word)

end ToolGate.Host.Condition.Program
