import ToolGate.Proofs.CommandLine.WindowsWords

/-! The command interpreter of Windows looks at a line before the program does, and by a rule of its
own: every quotation mark turns quotes on or off, and a backslash before it makes no difference. On
a joined line the two rules agree on where an argument ends. The quotation marks of each quoted
argument come in pairs, so no argument leaves quotes open and exposes the next one. -/
namespace ToolGate.CommandLine

/-- The characters on which the interpreter acts, unless they are quoted. -/
def isMeta (c : Char) : Bool :=
  c.toNat ≤ 0x20 ||
    ['^', '%', '~', '!', '@', '&', '?', '*', '<', '>', '|', '(', ')', '='].contains c

namespace Interpreter

/-- Whether the interpreter is in quotes after one more character. -/
def turn (quoted : Bool) (c : Char) : Bool :=
  if c = '"' then !quoted else quoted

/-- Whether the interpreter is in quotes after a text. -/
def quotedAfter (quoted : Bool) (text : List Char) : Bool :=
  text.foldl turn quoted

/-- The characters of a text, each with whether the interpreter meets it in quotes. -/
def scan (quoted : Bool) : List Char → List (Char × Bool)
  | [] => []
  | c :: rest => (c, quoted) :: scan (turn quoted c) rest

/-- The characters of a line on which the interpreter acts. -/
def exposed (line : List Char) : List Char :=
  ((scan false line).filter fun seen => !seen.2 && isMeta seen.1).map Prod.fst

/-- The parts of a line between the spaces outside quotes. -/
def parts (line : List Char) : List (List Char) :=
  ((scan false line).splitOn (' ', false)).map (·.map Prod.fst)

/-- A scan of a text with two parts knows of the first part only whether it ended inside quotes. -/
theorem scan_append (quoted : Bool) (first second : List Char) :
    scan quoted (first ++ second) =
      scan quoted first ++ scan (quotedAfter quoted first) second := by
  induction first generalizing quoted with
  | nil => rfl
  | cons c rest ih => simp [scan, quotedAfter, ih]

theorem map_fst_scan (quoted : Bool) (text : List Char) :
    (scan quoted text).map Prod.fst = text := by
  induction text generalizing quoted with
  | nil => rfl
  | cons c rest ih => simp [scan, ih]

/-- What counts after a text is whether its end lies inside quotes. -/
theorem quotedAfter_append (quoted : Bool) (first second : List Char) :
    quotedAfter quoted (first ++ second) = quotedAfter (quotedAfter quoted first) second :=
  List.foldl_append

/-- A text that is read from the given state without exposing anything. -/
def Hides (quoted : Bool) (text : List Char) : Prop :=
  ∀ seen ∈ scan quoted text, seen.2 = false → isMeta seen.1 = false

/-- A text hides its special characters if its first one does not stand outside of quotes and the
rest hides its own. -/
theorem hides_cons {quoted : Bool} {c : Char} {rest : List Char} :
    Hides quoted (c :: rest) ↔
      (quoted = false → isMeta c = false) ∧ Hides (turn quoted c) rest := by
  simp [Hides, scan]

/-- Texts that hide their special characters can be put together where the first one ends as the
second one begins. -/
theorem hides_append {quoted : Bool} {first second : List Char} :
    Hides quoted (first ++ second) ↔
      Hides quoted first ∧ Hides (quotedAfter quoted first) second := by
  simp only [Hides, scan_append, List.forall_mem_append]

/-- The backslashes that guard a mark mean nothing to the interpreter. -/
theorem guardQuotes_iff (quoted : Bool) (text : List Char) :
    quotedAfter quoted (guardQuotes text) = quotedAfter quoted text ∧
      (Hides quoted (guardQuotes text) ↔ Hides quoted text) := by
  induction text generalizing quoted with
  | nil => exact ⟨rfl, Iff.rfl⟩
  | cons c rest ih =>
      obtain ⟨hAfter, hHides⟩ := ih (turn quoted c)
      rw [guardQuotes]
      split
      · rename_i hGuard
        obtain ⟨rfl, -⟩ := hGuard
        have hTurn : turn quoted '\\' = quoted := rfl
        have hPlain : isMeta '\\' = false := by decide
        rw [hTurn] at hAfter hHides
        exact ⟨hAfter, by simp [hides_cons, hTurn, hPlain, hHides]⟩
      · exact ⟨hAfter, by rw [hides_cons, hides_cons, hHides]⟩

/-- Inside quotes a doubled mark leaves them and returns at once. -/
theorem doubleQuotes_inside (arg : List Char) :
    quotedAfter true (doubleQuotes arg) = true ∧ Hides true (doubleQuotes arg) := by
  induction arg with
  | nil => exact ⟨rfl, by simp [Hides, doubleQuotes, scan]⟩
  | cons c rest ih =>
      obtain ⟨hAfter, hHides⟩ := ih
      by_cases hMark : c = '"'
      · subst hMark
        have hPlain : isMeta '"' = false := by decide
        have hDouble : doubleQuotes ('"' :: rest) = '"' :: '"' :: doubleQuotes rest := rfl
        rw [hDouble]
        exact ⟨hAfter, by simpa [hides_cons, hPlain, turn] using hHides⟩
      · have hDouble : doubleQuotes (c :: rest) = c :: doubleQuotes rest := by
          simp [doubleQuotes, hMark]
        have hTurn : turn true c = true := by simp [turn, hMark]
        rw [hDouble]
        refine ⟨?_, hides_cons.2 ⟨by simp, by rwa [hTurn]⟩⟩
        rwa [quotedAfter, List.foldl_cons, hTurn]

/-- Every special character but the quotation mark is one that the command interpreter minds. -/
theorem isSpecial_eq (c : Char) : isSpecial c = (c == '"' || isMeta c) := by
  simp only [isSpecial, isMeta, List.contains_cons]
  exact Bool.or_left_comm _ _ _

/-- A text that needs no quotes has neither marks nor characters to hide. -/
theorem bare_outside {arg : List Char} (h : arg.any isSpecial = false) :
    quotedAfter false arg = false ∧ Hides false arg := by
  induction arg with
  | nil => exact ⟨rfl, by simp [Hides, scan]⟩
  | cons c rest ih =>
      rw [List.any_cons, Bool.or_eq_false_iff, isSpecial_eq, Bool.or_eq_false_iff] at h
      obtain ⟨⟨hMark, hPlain⟩, hRest⟩ := h
      obtain ⟨hAfter, hHides⟩ := ih hRest
      have hTurn : turn false c = false := by simpa [turn] using hMark
      refine ⟨?_, hides_cons.2 ⟨fun _ => hPlain, by rwa [hTurn]⟩⟩
      rwa [quotedAfter, List.foldl_cons, hTurn]

/-- Every argument is closed in itself: outside quotes again after it, and nothing exposed in it. -/
theorem quoteWindows_outside (arg : List Char) :
    quotedAfter false (quoteWindows arg) = false ∧ Hides false (quoteWindows arg) := by
  rw [quoteWindows]
  split
  · obtain ⟨hAfter, hHides⟩ := doubleQuotes_inside arg
    obtain ⟨hGuardAfter, hGuardHides⟩ := guardQuotes_iff false ('"' :: (doubleQuotes arg ++ ['"']))
    have hMark : isMeta '"' = false := by decide
    have hOpen : quotedAfter false ('"' :: (doubleQuotes arg ++ ['"'])) =
        quotedAfter true (doubleQuotes arg ++ ['"']) := rfl
    rw [hGuardAfter, hGuardHides, hOpen, quotedAfter_append, hAfter, hides_cons, hides_append]
    refine ⟨rfl, fun _ => hMark, hHides, ?_⟩
    rw [show turn false '"' = true from rfl, hAfter]
    simp [Hides, scan]
  · rename_i hSafe
    exact bare_outside (by simpa using hSafe)

section Joined

variable {args : List (List Char)}

/-- Arguments with an even number of quotation marks leave the line outside of quotes. -/
theorem quotedAfter_intercalate (h : ∀ arg ∈ args, quotedAfter false arg = false) :
    quotedAfter false ([' '].intercalate args) = false := by
  induction args with
  | nil => rfl
  | cons arg rest ih =>
      obtain ⟨hArg, hRest⟩ := List.forall_mem_cons.1 h
      cases rest with
      | nil => simpa using hArg
      | cons next rest =>
          rw [List.intercalate_cons_cons, quotedAfter_append, quotedAfter_append, hArg]
          exact ih hRest

/-- The spaces between closed arguments are met outside quotes. -/
theorem scan_intercalate (h : ∀ arg ∈ args, quotedAfter false arg = false) :
    scan false ([' '].intercalate args) = [(' ', false)].intercalate (args.map (scan false)) := by
  induction args with
  | nil => rfl
  | cons arg rest ih =>
      obtain ⟨hArg, hRest⟩ := List.forall_mem_cons.1 h
      cases rest with
      | nil => simp
      | cons next rest =>
          rw [List.intercalate_cons_cons, scan_append, scan_append, quotedAfter_append, hArg,
            List.map_cons, List.map_cons, List.intercalate_cons_cons, ← List.map_cons, ← ih hRest]
          rfl

/-- If every argument hides its special characters, only the blanks between them are exposed. -/
theorem exposed_intercalate (hAfter : ∀ arg ∈ args, quotedAfter false arg = false)
    (hHides : ∀ arg ∈ args, Hides false arg) :
    exposed ([' '].intercalate args) = List.replicate (args.length - 1) ' ' := by
  rw [exposed, scan_intercalate hAfter]
  induction args with
  | nil => rfl
  | cons arg rest ih =>
      obtain ⟨hArg, hRest⟩ := List.forall_mem_cons.1 hHides
      have hNone : (scan false arg).filter (fun seen => !seen.2 && isMeta seen.1) = [] := by
        rw [List.filter_eq_nil_iff]
        intro seen hSeen
        cases hQuoted : seen.2 with
        | true => simp
        | false => simp [hArg seen hSeen hQuoted]
      cases rest with
      | nil => simp [hNone]
      | cons next rest =>
          have hMore := ih (fun other hOther => hAfter other (List.mem_cons_of_mem arg hOther)) hRest
          rw [List.map_cons] at hMore
          rw [List.map_cons, List.map_cons, List.intercalate_cons_cons, List.filter_append,
            List.filter_append, hNone, List.nil_append, List.map_append, hMore]
          rfl

/-- Cut at the exposed blanks, the line falls apart into the arguments again. -/
theorem parts_intercalate (hArgs : args ≠ [])
    (hAfter : ∀ arg ∈ args, quotedAfter false arg = false)
    (hHides : ∀ arg ∈ args, Hides false arg) :
    parts ([' '].intercalate args) = args := by
  have hSpace : ∀ seen ∈ args.map (scan false), (' ', false) ∉ seen := by
    intro seen hSeen hMem
    obtain ⟨arg, hArg, rfl⟩ := List.mem_map.1 hSeen
    exact absurd (hHides arg hArg (' ', false) hMem rfl) (by decide)
  have hMap : args.map (scan false) ≠ [] := by simpa using hArgs
  rw [parts, scan_intercalate hAfter, List.splitOn_intercalate _ hSpace hMap, List.map_map]
  simp [Function.comp_def, map_fst_scan]

end Joined

end Interpreter

/-- The interpreter is outside quotes at the end of a joined line. What it acts on are the spaces
between the arguments and nothing else, so it finds the quoted arguments one by one, the empty ones
among them. Of the same line a program reads the arguments themselves, except for the empty ones. -/
theorem interpreter_join (first : String) (rest : List String) :
    Interpreter.quotedAfter false (join .windows (first :: rest)).toList = false ∧
    Interpreter.exposed (join .windows (first :: rest)).toList =
      List.replicate rest.length ' ' ∧
    Interpreter.parts (join .windows (first :: rest)).toList =
      (first :: rest).map (fun arg => (quote .windows arg).toList) ∧
    Argv.start.read (join .windows (first :: rest)).toList =
      ((first :: rest).map String.toList).filter (· ≠ []) := by
  let args := (first :: rest).map String.toList
  have hQuoted : (first :: rest).map (fun arg => (quote .windows arg).toList) =
      args.map quoteWindows := by
    simp only [args, toList_quote, quoteChars, List.map_map, Function.comp_def]
  have hLine : (join .windows (first :: rest)).toList =
      [' '].intercalate (args.map quoteWindows) := by
    rw [← hQuoted]
    simp only [toList_join, toList_quote]
  have hAfter : ∀ part ∈ args.map quoteWindows, Interpreter.quotedAfter false part = false := by
    intro part hPart
    obtain ⟨arg, -, rfl⟩ := List.mem_map.1 hPart
    exact (Interpreter.quoteWindows_outside arg).1
  have hHides : ∀ part ∈ args.map quoteWindows, Interpreter.Hides false part := by
    intro part hPart
    obtain ⟨arg, -, rfl⟩ := List.mem_map.1 hPart
    exact (Interpreter.quoteWindows_outside arg).2
  rw [hLine, hQuoted]
  refine ⟨Interpreter.quotedAfter_intercalate hAfter, ?_, ?_, ?_⟩
  · simpa [args] using Interpreter.exposed_intercalate hAfter hHides
  · exact Interpreter.parts_intercalate (by simp [args]) hAfter hHides
  · exact Argv.read_intercalate [] args

/-- A mark that a backslash precedes, an argument that ends in a backslash and an empty one leave
the last argument where it is hidden. -/
example : Interpreter.parts (join .windows ["a\\\"b", "c d\\", "", "e&f"]).toList =
    ["\"a\\\\\"\"b\"".toList, "\"c d\\\\\"".toList, [], "\"e&f\"".toList] := by decide +kernel

end ToolGate.CommandLine
