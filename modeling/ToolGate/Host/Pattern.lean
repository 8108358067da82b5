import ToolGate.Host.CharClass

/-!
The patterns of the shell. Each character comes with a mark that says whether it was quoted; a
quoted character stands for itself, and so does one after a backslash. A pattern is taken apart into
elements, each of which fits some characters.
-/

namespace ToolGate.Host

/-- A pattern: characters, each with the mark of a quoted one. -/
abbrev Pattern : Type := List (Char × Bool)

namespace Pattern

/-- What a part of a pattern fits. -/
inductive Element where
  | exactly (c : Char)
  /-- Any one character. -/
  | one
  /-- Any characters, or none. -/
  | many
  /-- One character that passes a test. -/
  | oneOf (contains : Char → Bool)

/-- Whether a character has a meaning in patterns where it is not quoted. -/
def isSpecial (c : Char) : Bool :=
  c = '*' || c = '?' || c = '['

/-- Whether anything in a pattern is more than a character. -/
def isActive : Pattern → Bool
  | ('\\', false) :: _ :: rest => isActive rest
  | (c, quoted) :: rest => (!quoted && isSpecial c) || isActive rest
  | [] => false

def takeLiteral : Pattern → Option (Char × Pattern)
  | ('\\', false) :: (c, _) :: rest => some (c, rest)
  | (c, _) :: rest => some (c, rest)
  | [] => none

/-- The text that a pattern stands for, if nothing in it is more than a character. -/
def literal : Pattern → List Char
  | ('\\', false) :: (c, _) :: rest => c :: literal rest
  | (c, _) :: rest => c :: literal rest
  | [] => []

/-- Reads the members of a set up to its closing bracket. A closing bracket at the beginning belongs
to the set. Without a closing bracket there is no set. The fuel is the length of the pattern. -/
def readMembers : Nat → Bool → Pattern → Option ((Char → Bool) × Pattern)
  | 0, _, _ => none
  | _ + 1, false, (']', false) :: rest => some (fun _ => false, rest)
  | fuel + 1, _, pattern => do
    let class? :=
      match pattern with
      | ('[', false) :: rest =>
        (CharClass.take? (rest.map Prod.fst)).filter fun _ => rest.head? = some (':', false)
      | _ => none
    match class? with
    | some (contains, after) =>
      let (others, rest) ← readMembers fuel false (pattern.drop (pattern.length - after.length))
      return (fun c => contains c || others c, rest)
    | none =>
      let (low, rest) ← takeLiteral pattern
      let isRange :=
        match rest with
        | ('-', false) :: next :: _ => next != (']', false)
        | _ => false
      if isRange then
        let (high, rest) ← takeLiteral (rest.drop 1)
        let (others, rest) ← readMembers fuel false rest
        return (fun c => (low ≤ c && c ≤ high) || others c, rest)
      else
        let (others, rest) ← readMembers fuel false rest
        return (fun c => c = low || others c, rest)

def readSet (pattern : Pattern) : Option ((Char → Bool) × Pattern) :=
  match pattern with
  | ('!', false) :: rest | ('^', false) :: rest =>
    (readMembers (rest.length + 1) true rest).map fun (contains, rest) =>
      (fun c => !contains c, rest)
  | _ => readMembers (pattern.length + 1) true pattern

/-- The elements of a pattern. The fuel is its length. -/
def elements : Nat → Pattern → List Element
  | 0, _ => []
  | _ + 1, [] => []
  | fuel + 1, ('*', false) :: rest => .many :: elements fuel rest
  | fuel + 1, ('?', false) :: rest => .one :: elements fuel rest
  | fuel + 1, ('[', false) :: rest =>
    match readSet rest with
    | some (contains, rest) => .oneOf contains :: elements fuel rest
    | none => .exactly '[' :: elements fuel rest
  | fuel + 1, pattern =>
    match takeLiteral pattern with
    | some (c, rest) => .exactly c :: elements fuel rest
    | none => []

/-- Whether some end of a text passes a test. -/
def someEnd (test : List Char → Bool) : List Char → Bool
  | [] => test []
  | c :: rest => test (c :: rest) || someEnd test rest

def fits : List Element → List Char → Bool
  | [], text => text.isEmpty
  | .many :: rest, text => someEnd (fits rest) text
  | .one :: rest, _ :: text => fits rest text
  | .exactly c :: rest, d :: text => c = d && fits rest text
  | .oneOf contains :: rest, d :: text => contains d && fits rest text
  | _ :: _, [] => false

def isMatch (pattern : Pattern) (text : List Char) : Bool :=
  fits (elements pattern.length pattern) text

/-- What is left of a text when the shortest or longest beginning that fits is taken away. -/
def dropFront (longest : Bool) (pattern : Pattern) (text : List Char) : List Char :=
  let cuts := List.range (text.length + 1)
  let elements := elements pattern.length pattern
  match (if longest then cuts.reverse else cuts).find? fun cut => fits elements (text.take cut) with
  | some cut => text.drop cut
  | none => text

/-- What is left of a text when the shortest or longest end that fits is taken away. -/
def dropBack (longest : Bool) (pattern : Pattern) (text : List Char) : List Char :=
  let cuts := List.range (text.length + 1)
  let elements := elements pattern.length pattern
  match (if longest then cuts else cuts.reverse).find? fun cut => fits elements (text.drop cut) with
  | some cut => text.take cut
  | none => text

end Pattern

end ToolGate.Host
