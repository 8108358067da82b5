/-!
Texts as sequences of octets. Programs see the encoded form of a text; here it is kept as a text
again, in which every character is one octet. What programs wrote is decoded with a replacement
character for each longest part that could still have become a character.
-/

namespace ToolGate.Text

/-- The octets of a character, each as the character with its number. -/
def octetsOfChar (c : Char) : List Char :=
  (String.utf8EncodeChar c).map fun octet => Char.ofNat octet.toNat

def octets (text : String) : String :=
  String.ofList (text.toList.flatMap octetsOfChar)

/-- What octets at the beginning of a sequence stand for, and how many they are besides the first
one. -/
structure Decoded where
  char : Char
  further : Nat
  deriving DecidableEq, Repr

/-- The character that stands for octets that cannot be decoded. -/
def replacement : Char := '\ufffd'

/-- The payload of an octet that goes on with a character, if it lies within bounds. -/
def payload? (low high : Nat) : List Char → Option Nat
  | [] => none
  | c :: _ => if low ≤ c.toNat && c.toNat ≤ high then some (c.toNat % 64) else none

/-- Decodes a character that has some payload already and needs more octets, of which the first one
has to lie within bounds. -/
def decodeFurther (low high : Nat) : Nat → Nat → Nat → List Char → Decoded
  | 0, value, further, _ => ⟨Char.ofNat value, further⟩
  | needed + 1, value, further, rest =>
    match payload? low high rest with
    | some payload =>
      decodeFurther 0x80 0xbf needed (value * 64 + payload) (further + 1) rest.tail
    | none => ⟨replacement, further⟩

def decodeChar (first : Char) (rest : List Char) : Decoded :=
  let lead := first.toNat
  if lead < 0x80 then ⟨first, 0⟩
  else if lead < 0xc2 then ⟨replacement, 0⟩
  else if lead < 0xe0 then decodeFurther 0x80 0xbf 1 (lead % 32) 0 rest
  else if lead < 0xf0 then
    let low := if lead = 0xe0 then 0xa0 else 0x80
    let high := if lead = 0xed then 0x9f else 0xbf
    decodeFurther low high 2 (lead % 16) 0 rest
  else if lead < 0xf5 then
    let low := if lead = 0xf0 then 0x90 else 0x80
    let high := if lead = 0xf4 then 0x8f else 0xbf
    decodeFurther low high 3 (lead % 8) 0 rest
  else ⟨replacement, 0⟩

def decode : List Char → List Char
  | [] => []
  | first :: rest =>
    let decoded := decodeChar first rest
    decoded.char :: decode (rest.drop decoded.further)
termination_by octets => octets.length
decreasing_by
  rw [List.length_drop, List.length_cons]
  omega

def ofOctets (text : String) : String :=
  String.ofList (decode text.toList)

end ToolGate.Text
