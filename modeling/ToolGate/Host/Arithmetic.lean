import ToolGate.CommandLine.VariableName
import ToolGate.Host.Numeral

/-!
The arithmetic of the shell: whole numbers of 64 bits, the usual operators, variables, and
assignments to them. An operand that cannot change the result is read but has no effect.
-/

namespace ToolGate.Host.Arithmetic

open CommandLine (isNamePart startsName)

/-- Why an expression has no value. -/
inductive Problem where
  /-- Something else had to come next. -/
  | expecting (what : String)
  | divisionByZero
  | illegalNumber (text : String)
  /-- The quotient is too large, which the machine itself does not accept. -/
  | overflow
  deriving DecidableEq, Repr

/-- The values of variables. The first entry with a name counts. -/
abbrev Values : Type := List (String × String)

/-- The parts of an expression. -/
inductive Token where
  | finish
  | number (value : Int)
  | name (text : String)
  | sign (text : String)
  /-- A character that no expression has. -/
  | unknown
  deriving DecidableEq, Repr

/-- The signs, longer ones before their beginnings. -/
def signs : List String :=
  ["<<=", ">>=", "||", "&&", "==", "!=", "<=", ">=", "<<", ">>", "+=", "-=", "*=", "/=", "%=", "&=",
    "^=", "|=", "(", ")", "?", ":", "<", ">", "+", "-", "*", "/", "%", "&", "^", "|", "!", "~", "="]

def readToken (text : List Char) : Token × List Char :=
  let text := text.dropWhile fun c => c = ' ' || c = '\t' || c = '\n'
  match text with
  | [] => (.finish, [])
  | c :: rest =>
    if c.isDigit then
      let numeral := Numeral.read 0 text
      (.number (Numeral.signed numeral.value), numeral.rest)
    else if startsName c then
      let name := text.takeWhile isNamePart
      (.name (String.ofList name), text.drop name.length)
    else
      match signs.find? fun sign => sign.toList.isPrefixOf text with
      | some sign => (.sign sign, text.drop sign.length)
      | none => (.unknown, rest)

/-- The token that comes next, what follows it, and the values so far. -/
structure Cursor where
  token : Token
  rest : List Char
  values : Values

abbrev Reader : Type → Type := StateT Cursor (Except Problem)

def advance : Reader Unit :=
  modify fun cursor =>
    let (token, rest) := readToken cursor.rest
    { cursor with token, rest }

def take? (sign : String) : Reader Bool := do
  if (← get).token = .sign sign then
    advance
    return true
  else return false

/-- The binary operators that always need both operands, with their levels. An operator of a
lower level binds tighter. -/
def level? : String → Option Nat
  | "*" | "/" | "%" => some 0
  | "+" | "-" => some 1
  | "<<" | ">>" => some 2
  | "<" | "<=" | ">" | ">=" => some 3
  | "==" | "!=" => some 4
  | "&" => some 5
  | "^" => some 6
  | "|" => some 7
  | _ => none

def topLevel : Nat := 8

def truth (value : Bool) : Int :=
  if value then 1 else 0

def combine (operator : String) (a b : Int) : Except Problem Int :=
  let bits (combined : BitVec 64) : Except Problem Int := .ok combined.toInt
  match operator with
  | "|" => bits (BitVec.ofInt 64 a ||| BitVec.ofInt 64 b)
  | "^" => bits (BitVec.ofInt 64 a ^^^ BitVec.ofInt 64 b)
  | "&" => bits (BitVec.ofInt 64 a &&& BitVec.ofInt 64 b)
  | "==" => .ok (truth (a = b))
  | "!=" => .ok (truth (a ≠ b))
  | "<=" => .ok (truth (a ≤ b))
  | ">=" => .ok (truth (a ≥ b))
  | "<" => .ok (truth (a < b))
  | ">" => .ok (truth (a > b))
  | "<<" => .ok (Numeral.wrap (a <<< (b % 64).toNat))
  | ">>" => .ok (a >>> (b % 64).toNat)
  | "+" => .ok (Numeral.wrap (a + b))
  | "-" => .ok (Numeral.wrap (a - b))
  | "*" => .ok (Numeral.wrap (a * b))
  | _ =>
    if b = 0 then .error .divisionByZero
    else if a = Numeral.minSigned && b = -1 then .error .overflow
    else .ok (if operator = "/" then Int.tdiv a b else Int.tmod a b)

/-- The value of a variable. One that is missing or blank is zero. -/
def valueOf (name : String) : Reader Int := do
  let text := ((← get).values.lookup name).getD ""
  match Numeral.whole? 0 text with
  | some value => return value
  | none => throw (.illegalNumber text)

def assign (name : String) (value : Int) : Reader Int := do
  modify fun cursor => { cursor with values := (name, toString value) :: cursor.values }
  return value

/-- The operator that a sign applies before it assigns: none for a plain assignment. -/
def assigns? (sign : String) : Option (Option String) :=
  if sign = "=" then some none
  else
    let operator := String.ofList sign.toList.dropLast
    if sign.endsWith "=" && ["+", "-", "*", "/", "%", "<<", ">>", "&", "^", "|"].contains operator
    then some (some operator) else none

mutual

/-- An assignment, or a choice. `live` says whether the expression has effects. -/
def assignment : Nat → Bool → Reader Int
  | 0, _ => throw (.expecting "primary")
  | fuel + 1, live => do
    let cursor ← get
    match cursor.token, readToken cursor.rest with
    | .name name, (.sign sign, rest) =>
      match assigns? sign with
      | none => choice fuel live
      | some operator =>
        set { cursor with rest }
        advance
        let value ← assignment fuel live
        if !live then return value
        else
          match operator with
          | none => assign name value
          | some operator => assign name (← combine operator (← valueOf name) value)
    | _, _ => choice fuel live

def choice : Nat → Bool → Reader Int
  | 0, _ => throw (.expecting "primary")
  | fuel + 1, live => do
    let condition ← disjunction fuel live
    if ← take? "?" then
      let first ← assignment fuel (live && condition ≠ 0)
      unless ← take? ":" do throw (.expecting "':'")
      let second ← choice fuel (live && condition = 0)
      return if condition ≠ 0 then first else second
    else return condition

def disjunction : Nat → Bool → Reader Int
  | 0, _ => throw (.expecting "primary")
  | fuel + 1, live => do
    let first ← conjunction fuel live
    if ← take? "||" then
      let second ← disjunction fuel (live && first = 0)
      return truth (first ≠ 0 || second ≠ 0)
    else return first

def conjunction : Nat → Bool → Reader Int
  | 0, _ => throw (.expecting "primary")
  | fuel + 1, live => do
    let first ← binary fuel live topLevel (← operand fuel live)
    if ← take? "&&" then
      let second ← conjunction fuel (live && first ≠ 0)
      return truth (first ≠ 0 && second ≠ 0)
    else return first

/-- Goes on with binary operators that bind tighter than a level. -/
def binary : Nat → Bool → Nat → Int → Reader Int
  | 0, _, _, _ => throw (.expecting "primary")
  | fuel + 1, live, limit, first => do
    match (← get).token with
    | .sign operator =>
      match (level? operator).filter (· < limit) with
      | some level =>
        advance
        let second ← binary fuel live level (← operand fuel live)
        let value ← if live then combine operator first second else pure second
        binary fuel live limit value
      | none => return first
    | _ => return first

/-- A number, a variable, an expression in parentheses, or an operator before any of them. -/
def operand : Nat → Bool → Reader Int
  | 0, _ => throw (.expecting "primary")
  | fuel + 1, live => do
    let token := (← get).token
    match token with
    | .number value =>
      advance
      return value
    | .name name =>
      advance
      if live then valueOf name else return 0
    | .sign "(" =>
      advance
      let value ← assignment fuel live
      unless ← take? ")" do throw (.expecting "')'")
      return value
    | .sign "+" =>
      advance
      operand fuel live
    | .sign "-" =>
      advance
      return Numeral.wrap (-(← operand fuel live))
    | .sign "!" =>
      advance
      return truth ((← operand fuel live) = 0)
    | .sign "~" =>
      advance
      return -(← operand fuel live) - 1
    | _ => throw (.expecting "primary")

end

/-- The value of a text, and the values of the variables after it. -/
def evaluate (text : List Char) (values : Values) : Except Problem (Int × Values) := do
  let (token, rest) := readToken text
  let (value, cursor) ← (assignment (8 * text.length + 8) true).run { token, rest, values }
  if cursor.token = .finish then return (value, cursor.values)
  else throw (.expecting "EOF")

end ToolGate.Host.Arithmetic
