import ToolGate.Host.Condition
import ToolGate.Host.Numeral

/-!
Conditions as the shell checks them. Negation binds tightest, then `-a`, then `-o`, and parentheses
group. A word that could be an operator is an operand where that makes sense of the words around it.
-/

namespace ToolGate.Host.Condition.Shell

/-- Why a condition makes no sense. -/
inductive Problem where
  | argumentExpected (operator : String)
  | illegalNumber (text : String)
  | unexpectedOperator (word : String)
  | closingExpected
  deriving DecidableEq, Repr

def Problem.message : Problem → String
  | .argumentExpected operator => operator ++ ": argument expected"
  | .illegalNumber text => "Illegal number: " ++ text
  | .unexpectedOperator word =>
    if word.isEmpty then "unexpected operator" else word ++ ": unexpected operator"
  | .closingExpected => "closing paren expected"

def readNumber (text : String) : Except Problem Int :=
  match Numeral.whole? 10 text with
  | some value => .ok value
  | none => .error (.illegalNumber text)

def isUnary (word : String) : Bool :=
  word.length = 2 && word.startsWith "-" &&
    ("rwxefdcbpugkstznhOGLS".toList.contains (word.toList.getD 1 ' '))

def isBinary (word : String) : Bool :=
  (comparison? word).isSome || (textComparison? word).isSome || ["-nt", "-ot", "-ef"].contains word

/-- What a word is where it stands. -/
inductive Role where
  | finish
  | operand
  | unary
  | binary
  | negation
  | conjunction
  | disjunction
  | opening
  | closing
  deriving DecidableEq

/-- The role of the first of some words. An operator with one operand is an operand itself if
nothing follows it, or if an operator with two operands does. -/
def role (words : List String) : Role :=
  match words with
  | [] => .finish
  | word :: rest =>
    if isUnary word then
      match rest with
      | [] => .operand
      | next :: _ :: _ => if isBinary next then .operand else .unary
      | _ => .unary
    else if isBinary word then .binary
    else
      match word with
      | "!" => .negation
      | "-a" => .conjunction
      | "-o" => .disjunction
      | "(" => if rest.isEmpty then .operand else .opening
      | ")" => .closing
      | _ => .operand

def binary (view : View) (operator a b : String) : Except Problem Bool :=
  match comparison? operator, textComparison? operator with
  | some compare, _ => do return compare (← readNumber a) (← readNumber b)
  | _, some compare => .ok (compare a b)
  | _, _ => .ok (operator = "-ef" && view.same a b)

def unary (view : View) (operator operand : String) : Except Problem Bool :=
  if operator = "-t" then do
    let _ ← readNumber operand
    return false
  else .ok ((unary? view operator operand).getD false)

mutual

/-- Conditions joined by `-o`. The result is the value, and the words from the last one on that was
read. -/
def disjunction (view : View) : Nat → List String → Except Problem (Bool × List String)
  | 0, words => .ok (false, words)
  | fuel + 1, words => do
    let (a, rest) ← conjunction view fuel words
    if role (rest.drop 1) = .disjunction then
      let (b, rest) ← disjunction view fuel (rest.drop 2)
      return (a || b, rest)
    else return (a, rest)

def conjunction (view : View) : Nat → List String → Except Problem (Bool × List String)
  | 0, words => .ok (false, words)
  | fuel + 1, words => do
    let (a, rest) ← negation view fuel words
    if role (rest.drop 1) = .conjunction then
      let (b, rest) ← conjunction view fuel (rest.drop 2)
      return (a && b, rest)
    else return (a, rest)

def negation (view : View) : Nat → List String → Except Problem (Bool × List String)
  | 0, words => .ok (false, words)
  | fuel + 1, words => do
    if role words != .negation then primary view fuel words
    else if words.length = 1 then return (true, words)
    else
      let (a, rest) ← negation view fuel (words.drop 1)
      return (!a, rest)

def primary (view : View) : Nat → List String → Except Problem (Bool × List String)
  | 0, words => .ok (false, words)
  | fuel + 1, words => do
    match role words, words with
    | .finish, _ => return (false, words)
    | .opening, _ :: inner =>
      if role inner = .closing then return (false, inner)
      else
        let (a, rest) ← disjunction view fuel inner
        if role (rest.drop 1) = .closing then return (a, rest.drop 1)
        else .error .closingExpected
    | .unary, operator :: operand :: rest => return (← unary view operator operand, operand :: rest)
    | _, [a] => return (!a.isEmpty, [a])
    | _, a :: operator :: rest =>
      if role (operator :: rest) = .binary then
        match rest with
        | b :: _ => return (← binary view operator a b, rest)
        | [] => .error (.argumentExpected operator)
      else return (!a.isEmpty, words)
    | _, [] => return (false, [])

end

/-- Reads words by the grammar. If some are left, the last one that was read is at fault. -/
def whole (view : View) (words : List String) : Except Problem Bool := do
  let (value, rest) ← disjunction view (8 * words.length + 8) words
  match rest with
  | last :: _ :: _ => .error (.unexpectedOperator last)
  | _ => return value

/-- The value of a condition, perhaps negated. Few words are read by rules of their own: an operator
between two words has those as its operands, whatever they are; parentheses around the words are
left out; and a negation is that of the other words, however often it is repeated. -/
def evaluateAs (view : View) (negated : Bool) (words : List String) : Except Problem Bool := do
  let few := words.length = 3 || words.length = 4
  match words with
  | [] => return negated
  | first :: rest =>
    let value ←
      if words.length = 3 && isBinary (rest.headD "") then
        binary view (rest.headD "") first (rest.getD 1 "")
      else if few && first = "(" && rest.getLast? = some ")" then whole view rest.dropLast
      else if few && first = "!" then return ← evaluateAs view true rest
      else whole view words
    return value != negated

def evaluate (view : View) (words : List String) : Except Problem Bool :=
  evaluateAs view false words

end ToolGate.Host.Condition.Shell
