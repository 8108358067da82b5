import ToolGate.Proofs.CommandLine.Joining

/-! How a Windows program cuts its command line into arguments, and that it reads back what was
joined. A run of backslashes is special only right before a quotation mark: two of them stand for
one, and an odd one that is left makes the mark an ordinary character. Inside quotes a doubled
mark is an ordinary character as well. Exactly the empty arguments of a joined line are lost. -/
namespace ToolGate.CommandLine

/-- How far the reading of a line has come. Between two arguments none is under way. -/
structure Argv where
  done : List (List Char)
  current : Option (List Char)
  quoted : Bool
  deriving DecidableEq, Repr

namespace Argv

/-- Nothing has been read yet. -/
def start : Argv := ⟨[], none, false⟩

/-- Appends characters to the argument under way, or begins one with them. -/
def push (argv : Argv) (text : List Char) : Argv :=
  { argv with current := some (argv.current.getD [] ++ text) }

/-- Completes the argument under way, if there is one. -/
def close (argv : Argv) : Argv :=
  { argv with done := argv.done ++ argv.current.toList, current := none }

/-- Opens or closes quotes. Quotes around nothing are an argument as well. -/
def toggle (argv : Argv) : Argv :=
  { argv.push [] with quoted := !argv.quoted }

/-- Reads a run of backslashes together with a quotation mark that the run makes an ordinary
character. The line is what follows the run. -/
def afterRun (argv : Argv) (run : Nat) : List Char → Argv × List Char
  | '"' :: rest =>
    if run % 2 = 1 then (argv.push (List.replicate (run / 2) '\\' ++ ['"']), rest)
    else (argv.push (List.replicate (run / 2) '\\'), '"' :: rest)
  | rest => (argv.push (List.replicate run '\\'), rest)

/-- Reads a quotation mark that keeps its meaning. Inside quotes a second one right after it makes
the two an ordinary mark. -/
def afterMark (argv : Argv) : List Char → Argv × List Char
  | '"' :: rest => if argv.quoted then (argv.push ['"'], rest) else (argv.toggle, '"' :: rest)
  | rest => (argv.toggle, rest)

/-- Reads one character, and more of the line where its meaning depends on them. The second
component is what is left of the line. -/
def step (argv : Argv) (c : Char) (rest : List Char) : Argv × List Char :=
  if (c = ' ' ∨ c = '\t') ∧ argv.quoted = false then (argv.close, rest)
  else if c = '\\' then
    argv.afterRun ((rest.takeWhile (· == '\\')).length + 1) (rest.dropWhile (· == '\\'))
  else if c = '"' then argv.afterMark rest
  else (argv.push [c], rest)

/-- After a run of backslashes the reader has not gone back. -/
theorem length_afterRun_le (argv : Argv) (run : Nat) (line : List Char) :
    (argv.afterRun run line).2.length ≤ line.length := by
  unfold afterRun
  split
  · split
    · simp
    · exact Nat.le_refl _
  · exact Nat.le_refl _

theorem length_afterMark_le (argv : Argv) (line : List Char) :
    (argv.afterMark line).2.length ≤ line.length := by
  unfold afterMark
  split
  · split
    · simp
    · exact Nat.le_refl _
  · exact Nat.le_refl _

/-- A step never lengthens what is left to be read, from which the reader terminates. -/
theorem length_step_le (argv : Argv) (c : Char) (rest : List Char) :
    (argv.step c rest).2.length ≤ rest.length := by
  unfold step
  split
  · exact Nat.le_refl _
  split
  · exact Nat.le_trans (length_afterRun_le argv _ _) (List.dropWhile_suffix _).length_le
  split
  · exact length_afterMark_le argv rest
  · exact Nat.le_refl _

/-- Reads a line to its end. -/
def read (argv : Argv) : List Char → List (List Char)
  | [] => argv.close.done
  | c :: rest => (argv.step c rest).1.read (argv.step c rest).2
termination_by line => line.length
decreasing_by exact Nat.lt_succ_of_le (length_step_le argv c rest)

end Argv

/-- The arguments that a program reads on its command line. -/
def argv (line : String) : List String :=
  (Argv.start.read line.toList).map String.ofList

/-- Doubling reaches back over the backslashes right before a mark. -/
theorem guardQuotes_replicate_mark (count : Nat) (text : List Char) :
    guardQuotes (List.replicate count '\\' ++ '"' :: text) =
      List.replicate (2 * count) '\\' ++ '"' :: guardQuotes text := by
  have hLeads (n : Nat) : leadsToQuote (List.replicate n '\\' ++ '"' :: text) = true := by
    induction n with
    | zero => simp [leadsToQuote]
    | succ n ih => simpa [List.replicate_succ, leadsToQuote] using ih
  induction count with
  | zero => simp [guardQuotes]
  | succ count ih =>
      rw [List.replicate_succ, List.cons_append, guardQuotes, if_pos ⟨rfl, hLeads count⟩, ih]
      rfl

/-- Backslashes before any other character are left alone. -/
theorem guardQuotes_replicate_other (count : Nat) {c : Char} (text : List Char)
    (hBackslash : c ≠ '\\') (hMark : c ≠ '"') :
    guardQuotes (List.replicate count '\\' ++ c :: text) =
      List.replicate count '\\' ++ c :: guardQuotes text := by
  have hLeads (n : Nat) : leadsToQuote (List.replicate n '\\' ++ c :: text) = false := by
    induction n with
    | zero => simp [leadsToQuote, hBackslash, hMark]
    | succ n ih => simpa [List.replicate_succ, leadsToQuote] using ih
  induction count with
  | zero => simp [guardQuotes, hBackslash]
  | succ count ih =>
      rw [List.replicate_succ, List.cons_append, guardQuotes, if_neg (by simp [hLeads]), ih]
      rfl

namespace Argv

/-- Reading goes on from where one step has led. -/
theorem read_cons (argv : Argv) (c : Char) (rest : List Char) :
    argv.read (c :: rest) = (argv.step c rest).1.read (argv.step c rest).2 := by
  rw [read]

/-- Outside quotes a space completes the argument under way. -/
theorem read_space (done : List (List Char)) (current : Option (List Char)) (rest : List Char) :
    read ⟨done, current, false⟩ (' ' :: rest) =
      read ⟨done ++ current.toList, none, false⟩ rest := by
  rw [read_cons]
  rfl

/-- A character that is no blank begins an argument, if none is under way. -/
theorem read_begin (done : List (List Char)) {c : Char} (rest : List Char)
    (hSpace : c ≠ ' ') (hTab : c ≠ '\t') :
    read ⟨done, none, false⟩ (c :: rest) = read ⟨done, some [], false⟩ (c :: rest) := by
  have hStep : step ⟨done, none, false⟩ c rest = step ⟨done, some [], false⟩ c rest := by
    simp [step, afterRun, afterMark, push, toggle, hSpace, hTab]
  rw [read_cons, read_cons, hStep]

/-- A run of backslashes is read as a whole. -/
theorem read_run (argv : Argv) (count : Nat) {line : List Char} (h : line.head? ≠ some '\\') :
    argv.read (List.replicate (count + 1) '\\' ++ line) =
      (argv.afterRun (count + 1) line).1.read (argv.afterRun (count + 1) line).2 := by
  have hTake : line.takeWhile (· == '\\') = [] := by
    cases line <;> simp_all
  have hDrop : line.dropWhile (· == '\\') = line := by
    cases line <;> simp_all
  have hStep : argv.step '\\' (List.replicate count '\\' ++ line) =
      argv.afterRun (count + 1) line := by
    rw [step, if_neg (by simp), if_pos rfl, List.takeWhile_append_of_pos (by simp), hTake,
      List.dropWhile_append_of_pos (by simp), hDrop]
    simp
  rw [List.replicate_succ, List.cons_append, read_cons, hStep]

variable (done : List (List Char)) (word : List Char) (quoted : Bool)

/-- Before a mark two backslashes stand for one, and the mark keeps its meaning. -/
theorem read_run_mark (count : Nat) (rest : List Char) :
    read ⟨done, some word, quoted⟩ (List.replicate (2 * count) '\\' ++ '"' :: rest) =
      read ⟨done, some (word ++ List.replicate count '\\'), quoted⟩ ('"' :: rest) := by
  cases count with
  | zero => simp
  | succ count =>
      have hOdd : ¬(2 * count + 1 + 1) % 2 = 1 := by omega
      have hHalf : (2 * count + 1 + 1) / 2 = count + 1 := by omega
      rw [show 2 * (count + 1) = 2 * count + 1 + 1 by omega, read_run _ _ (by simp), afterRun,
        if_neg hOdd, hHalf]
      rfl

/-- Before anything else every backslash stands for itself. -/
theorem read_run_other (count : Nat) {line : List Char} (hBackslash : line.head? ≠ some '\\')
    (hMark : line.head? ≠ some '"') :
    read ⟨done, some word, quoted⟩ (List.replicate count '\\' ++ line) =
      read ⟨done, some (word ++ List.replicate count '\\'), quoted⟩ line := by
  cases count with
  | zero => simp
  | succ count =>
      rw [read_run _ _ hBackslash]
      unfold afterRun
      split
      · simp at hMark
      · rfl

/-- Inside quotes a doubled mark stands for one. -/
theorem read_doubledMark (rest : List Char) :
    read ⟨done, some word, true⟩ ('"' :: '"' :: rest) =
      read ⟨done, some (word ++ ['"']), true⟩ rest := by
  rw [read_cons]
  rfl

theorem read_openMark (rest : List Char) :
    read ⟨done, some word, false⟩ ('"' :: rest) = read ⟨done, some word, true⟩ rest := by
  have hMark : afterMark ⟨done, some word, false⟩ rest = (⟨done, some word, true⟩, rest) := by
    unfold afterMark
    split <;> simp [toggle, push]
  rw [read_cons, step, if_neg (by simp), if_neg (by simp), if_pos rfl, hMark]

theorem read_closeMark {line : List Char} (h : line.head? ≠ some '"') :
    read ⟨done, some word, true⟩ ('"' :: line) = read ⟨done, some word, false⟩ line := by
  have hMark : afterMark ⟨done, some word, true⟩ line = (⟨done, some word, false⟩, line) := by
    unfold afterMark
    split <;> simp_all [toggle, push]
  rw [read_cons, step, if_neg (by simp), if_neg (by simp), if_pos rfl, hMark]

/-- Any other character stands for itself, inside quotes also a blank. -/
theorem read_other {c : Char} (rest : List Char) (hBackslash : c ≠ '\\') (hMark : c ≠ '"')
    (hBlank : quoted = false → c ≠ ' ' ∧ c ≠ '\t') :
    read ⟨done, some word, quoted⟩ (c :: rest) = read ⟨done, some (word ++ [c]), quoted⟩ rest := by
  have hStep : ¬((c = ' ' ∨ c = '\t') ∧ quoted = false) := by
    rintro ⟨rfl | rfl, hQuoted⟩
    · exact (hBlank hQuoted).1 rfl
    · exact (hBlank hQuoted).2 rfl
  rw [read_cons, step, if_neg hStep, if_neg hBackslash, if_neg hMark]
  rfl

/-- Reads the rest of a quoted argument, up to the closing mark. The backslashes that were just
seen are put in front, since only what follows them tells what they stand for. -/
theorem read_guardQuotes (count : Nat) (arg : List Char) {line : List Char}
    (h : line.head? ≠ some '"') :
    read ⟨done, some word, true⟩
        (guardQuotes (List.replicate count '\\' ++ (doubleQuotes arg ++ ['"'])) ++ line) =
      read ⟨done, some (word ++ List.replicate count '\\' ++ arg), false⟩ line := by
  induction arg generalizing word count with
  | nil =>
      rw [show doubleQuotes [] ++ ['"'] = '"' :: [] from rfl, guardQuotes_replicate_mark,
        List.append_assoc, List.cons_append, read_run_mark]
      simpa [guardQuotes] using read_closeMark done (word ++ List.replicate count '\\') h
  | cons c arg ih =>
      by_cases hMark : c = '"'
      · subst c
        rw [show doubleQuotes ('"' :: arg) ++ ['"'] = '"' :: '"' :: (doubleQuotes arg ++ ['"'])
            from rfl, guardQuotes_replicate_mark, List.append_assoc, List.cons_append,
          read_run_mark]
        have hNext := ih (word ++ List.replicate count '\\' ++ ['"']) 0
        rw [show guardQuotes ('"' :: (doubleQuotes arg ++ ['"'])) =
            '"' :: guardQuotes (doubleQuotes arg ++ ['"']) by simp [guardQuotes],
          List.cons_append, read_doubledMark]
        simpa using hNext
      have hDouble : doubleQuotes (c :: arg) = c :: doubleQuotes arg := by
        simp [doubleQuotes, hMark]
      rw [hDouble, List.cons_append]
      by_cases hBackslash : c = '\\'
      · subst c
        have hNext := ih word (count + 1)
        simpa [List.replicate_succ', List.append_assoc] using hNext
      · rw [guardQuotes_replicate_other _ _ hBackslash hMark, List.append_assoc,
          List.cons_append, read_run_other _ _ _ _ (by simpa) (by simpa),
          read_other _ _ _ _ hBackslash hMark (by simp)]
        have hNext := ih (word ++ List.replicate count '\\' ++ [c]) 0
        simpa using hNext

/-- Reads the rest of an argument that needs no quotes. -/
theorem read_bare (count : Nat) {arg line : List Char} (hArg : arg.any isSpecial = false)
    (hBackslash : line.head? ≠ some '\\') (hMark : line.head? ≠ some '"') :
    read ⟨done, some word, false⟩ (List.replicate count '\\' ++ (arg ++ line)) =
      read ⟨done, some (word ++ List.replicate count '\\' ++ arg), false⟩ line := by
  induction arg generalizing word count with
  | nil => simpa using read_run_other done word false count hBackslash hMark
  | cons c arg ih =>
      rw [List.any_cons, Bool.or_eq_false_iff] at hArg
      have hNe {d : Char} (hd : isSpecial d = true) : c ≠ d := by
        rintro rfl
        simp [hd] at hArg
      by_cases hRun : c = '\\'
      · subst c
        have hNext := ih word (count + 1) hArg.2
        simpa [List.replicate_succ', List.append_assoc] using hNext
      · have hQuote : c ≠ '"' := hNe (by decide)
        rw [List.cons_append, read_run_other _ _ _ _ (by simpa) (by simpa),
          read_other _ _ _ _ hRun hQuote fun _ => ⟨hNe (by decide), hNe (by decide)⟩]
        have hNext := ih (word ++ List.replicate count '\\' ++ [c]) 0 hArg.2
        simpa using hNext

/-- A quoted argument is read as itself, and an empty one, which is not quoted, as nothing. -/
theorem read_quoteWindows (arg : List Char) {line : List Char} (h : ∀ c ∈ line.head?, c = ' ') :
    read ⟨done, none, false⟩ (quoteWindows arg ++ line) =
      read ⟨done, if arg = [] then none else some arg, false⟩ line := by
  have hMark : line.head? ≠ some '"' := fun hHead => absurd (h _ hHead) (by decide)
  have hBackslash : line.head? ≠ some '\\' := fun hHead => absurd (h _ hHead) (by decide)
  cases arg with
  | nil => rfl
  | cons c rest =>
      rw [if_neg (List.cons_ne_nil c rest), quoteWindows]
      split
      · -- The opening mark is not followed by anything that the guard could double.
        rw [show guardQuotes ('"' :: (doubleQuotes (c :: rest) ++ ['"'])) =
            '"' :: guardQuotes (doubleQuotes (c :: rest) ++ ['"']) by simp [guardQuotes],
          List.cons_append, read_begin _ _ (by decide) (by decide), read_openMark]
        simpa using read_guardQuotes done [] 0 (c :: rest) hMark
      · rename_i hSafe
        have hArg : (c :: rest).any isSpecial = false := by simpa using hSafe
        have hNe {d : Char} (hd : isSpecial d = true) : c ≠ d := by
          rintro rfl
          simp [hd] at hArg
        rw [List.cons_append, read_begin _ _ (hNe (by decide)) (hNe (by decide))]
        simpa using read_bare done [] 0 hArg hBackslash hMark

/-- A line is read argument by argument. -/
theorem read_intercalate (args : List (List Char)) :
    read ⟨done, none, false⟩ ([' '].intercalate (args.map quoteWindows)) =
      done ++ args.filter (· ≠ []) := by
  induction args generalizing done with
  | nil => simp [read, close]
  | cons arg rest ih =>
      have hDone : (if arg = [] then none else some arg).toList ++ rest.filter (· ≠ []) =
          (arg :: rest).filter (· ≠ []) := by
        by_cases hArg : arg = [] <;> simp [hArg]
      cases rest with
      | nil =>
          have hRead := read_quoteWindows done arg (by simp : ∀ c ∈ ([] : List Char).head?, c = ' ')
          rw [← hDone]
          simpa [read, close] using hRead
      | cons next rest =>
          simp only [List.map_cons, List.intercalate_cons_cons, List.append_assoc,
            List.singleton_append] at ih ⊢
          rw [read_quoteWindows _ _ (by simp), read_space, ih, List.append_assoc, hDone]

end Argv

/-- Reading a joined line gives the arguments back in order, except for the empty ones, and those
are all that a line can lose. -/
theorem argv_join (args : List String) :
    argv (join .windows args) = args.filter (· ≠ "") ∧
    (argv (join .windows args) = args ↔ "" ∉ args) := by
  have hRead : argv (join .windows args) = args.filter (· ≠ "") := by
    have hLine := Argv.read_intercalate [] (args.map String.toList)
    rw [List.map_map, List.nil_append, List.filter_map] at hLine
    simp only [Function.comp_def] at hLine
    rw [argv, Argv.start, toList_join]
    simp only [quoteChars]
    rw [hLine, List.map_map]
    simp [Function.comp_def]
  refine ⟨hRead, ?_⟩
  rw [hRead, List.filter_eq_self]
  constructor
  · intro hAll hMem
    simpa using hAll "" hMem
  · intro hNotMem arg hArg
    simpa using ne_of_mem_of_not_mem hArg hNotMem

/-- The reader knows quotes within a word and backslashes before a mark outside quotes. -/
example : argv "a\\b \"c \"\"d\" e\\\"f\\\\\"g h\"" = ["a\\b", "c \"d", "e\"f\\g h"] := by cbv

end ToolGate.CommandLine
