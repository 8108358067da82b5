/-!
How alike two words are, as the Jaro measure counts it: letters that both words have at nearly the
same place, less those that stand in another order. The measure is an exact fraction between 0
and 1.
-/

namespace ToolGate.Text

/-- How far apart two equal letters may stand to count as common to words of these lengths. -/
def reach (a b : List Char) : Nat :=
  max a.length b.length / 2 - 1

/-- The places in `b` that the letters of a word take, one after the other. A letter takes the
first place within reach that holds it and is still free. The count is the place of the first
letter. -/
def takePlaces (reach : Nat) (b : List Char) : Nat → List Nat → List Char → List (Char × Nat)
  | _, _, [] => []
  | count, taken, c :: rest =>
    match (List.range b.length).find? fun place =>
        count ≤ place + reach && place ≤ count + reach && b[place]? == some c &&
          !taken.contains place with
    | some place => (c, place) :: takePlaces reach b (count + 1) (place :: taken) rest
    | none => takePlaces reach b (count + 1) taken rest

/-- The letters of `b` at the given places, in the order of `b`. -/
def lettersAt (b : List Char) (places : List Nat) : List Char :=
  (List.range b.length).filterMap fun place => if places.contains place then b[place]? else none

def differences (a b : List Char) : Nat :=
  ((a.zip b).filter fun pair => pair.1 != pair.2).length

/-- The likeness of two words. Two empty words are alike, and words without a common letter have
nothing in common. -/
def similarity (a b : List Char) : Rat :=
  if a.isEmpty && b.isEmpty then 1
  else
    let common := takePlaces (reach a b) b 0 [] a
    let count : Rat := common.length
    let displaced : Rat :=
      (differences (common.map (·.1)) (lettersAt b (common.map (·.2))) / 2 : Nat)
    if common.isEmpty then 0
    else (count / a.length + count / b.length + (count - displaced) / count) / 3

end ToolGate.Text
