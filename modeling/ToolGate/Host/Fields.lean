import ToolGate.Host.Pattern

/-!
How an expanded text falls apart into fields. Only values are separated, and only where a separator
stands in them. Blanks that separate count as one separator, together with one other separator that
stands among them; every other separator ends a field of its own.
-/

namespace ToolGate.Host

/-- Where a character of an expanded word comes from. -/
inductive Origin where
  | literal
  | quoted
  /-- From the value of something that stands outside of quotes. -/
  | value
  deriving DecidableEq, Repr

/-- A unit of an expanded word. -/
inductive Glyph where
  | char (c : Char) (origin : Origin)
  /-- The field that stands here exists even if it is empty. -/
  | mark
  /-- One field ends here and another one begins. -/
  | boundary
  /-- A value begins here, for which the blanks before it do not count. -/
  | edge
  deriving DecidableEq, Repr

namespace Glyph

def plainText (glyphs : List Glyph) : List Char :=
  glyphs.filterMap fun
    | .char c _ => some c
    | .boundary => some ' '
    | _ => none

def pattern (glyphs : List Glyph) : Pattern :=
  glyphs.filterMap fun
    | .char c origin => some (c, origin == .quoted)
    | .boundary => some (' ', false)
    | _ => none

def ofValue (quoted : Bool) (value : List Char) : List Glyph :=
  if quoted then .mark :: value.map fun c => .char c .quoted
  else .edge :: value.map fun c => .char c .value

/-- Makes literal characters separable, as those of a value are. -/
def separable (glyphs : List Glyph) : List Glyph :=
  .edge :: glyphs.map fun
    | .char c .literal => .char c .value
    | glyph => glyph

end Glyph

namespace Fields

def isBlank (c : Char) : Bool := c = ' ' || c = '\t' || c = '\n'

/-- Fields on their way: those that are complete, the one that is being filled, its last character
first, and whether the last field was ended by a blank. -/
structure Splitting where
  complete : List Pattern := []
  current : Option Pattern := none
  afterBlank : Bool := false

namespace Splitting

def add (splitting : Splitting) (c : Char) (quoted : Bool) : Splitting :=
  { splitting with
    current := some ((c, quoted) :: splitting.current.getD [])
    afterBlank := false }

def close (splitting : Splitting) (afterBlank : Bool) : Splitting :=
  { complete := splitting.complete ++ splitting.current.toList.map List.reverse
    current := none
    afterBlank }

def take (separators : List Char) (splitting : Splitting) : Glyph → Splitting
  | .mark => { splitting with current := some (splitting.current.getD []) }
  | .boundary => splitting.close false
  | .edge => { splitting with afterBlank := false }
  | .char c .quoted => splitting.add c true
  | .char c .literal => splitting.add c false
  | .char c .value =>
    if !separators.contains c then splitting.add c false
    else if splitting.current.isSome then splitting.close (isBlank c)
    else if isBlank c then splitting
    else if splitting.afterBlank then { splitting with afterBlank := false }
    else { splitting with complete := splitting.complete ++ [[]] }

end Splitting

def ofGlyphs (separators : List Char) (glyphs : List Glyph) : List Pattern :=
  ((glyphs.foldl (Splitting.take separators) {}).close false).complete

/-- A character of a line, and whether it was protected when the line was read. -/
abbrev Mark : Type := Char × Bool

/-- How much of the end of a line belongs to its last field, after a separator that would have ended
the field: all of it, unless nothing follows but blanks and perhaps one other separator among them.
Protected characters are not looked at. `cut` is the place from which on the end would be left out;
`afterBlank` says whether a blank has been the last separator. -/
def ending (separators : List Char) : Option Nat → Bool → Nat → List Mark → Option Nat
  | cut, _, _, [] => cut
  | cut, _, place, (_, true) :: rest => ending separators cut false (place + 1) rest
  | cut, afterBlank, place, (c, false) :: rest =>
    let separates := separators.contains c
    if separates && isBlank c then
      ending separators (cut.or (some place)) afterBlank (place + 1) rest
    else
      ending separators (if separates && afterBlank then cut else none) false (place + 1) rest

/-- Shares a line out to a number of fields. The last one gets all that is left, but for separators
at its end. -/
def share (separators : List Char) : Nat → List Char → Bool → List Mark → List (List Char)
  | _, current, _, [] => if current.isEmpty then [] else [current]
  | limit, current, _, (c, true) :: rest => share separators limit (current ++ [c]) false rest
  | limit, current, afterBlank, (c, false) :: rest =>
    if !separators.contains c then share separators limit (current ++ [c]) false rest
    else if afterBlank then share separators limit current (isBlank c) rest
    else if current.isEmpty && isBlank c then share separators limit current false rest
    else
      match limit with
      | limit + 2 => current :: share separators (limit + 1) [] (isBlank c) rest
      | _ =>
        let tail := (c, false) :: rest
        let size := (ending separators (some 0) (isBlank c) 1 rest).getD tail.length
        [current ++ (tail.take size).map Prod.fst]

end Fields

end ToolGate.Host
