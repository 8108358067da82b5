import ToolGate.Proofs.CommandLine.Joining

/-! How a POSIX shell cuts a line into words, and that it reads back what was joined. The reader
marks every character of a line with the part that it plays, so that one can also say which
characters stand outside quotes. On a joined line these are safe characters and the spaces between
the arguments, and no others. -/
namespace ToolGate.CommandLine

/-- The part that a character plays on a line. -/
inductive Role where
  /-- Stands between words. -/
  | separator
  /-- Opens or closes quotes. -/
  | delimiter
  /-- Is taken away: a backslash that quotes the next character, and a newline after it. -/
  | removed
  /-- Stands for itself outside quotes, where a shell may give it another meaning. -/
  | plain
  /-- Stands for itself inside single quotes or after a backslash. -/
  | literal
  /-- Stands for itself inside double quotes, where expansions still happen. -/
  | doubled
  deriving DecidableEq, Repr

/-- A character of a line with its part. -/
structure Mark where
  char : Char
  role : Role
  deriving DecidableEq, Repr

/-- How a shell stands towards the next character. -/
inductive Mode where
  | bare
  | single
  | double
  | escaped
  | doubleEscaped
  deriving DecidableEq, Repr

namespace Mode

/-- Blanks and newlines end a word. -/
def isBlank (c : Char) : Bool :=
  c == ' ' || c == '\t' || c == '\n'

/-- The characters that a backslash quotes inside double quotes. Before any other one it stands
for itself. -/
def isEscapable (c : Char) : Bool :=
  ['$', '\x60', '"', '\\', '\n'].contains c

/-- The part that a character plays, and how the shell stands after it. Only a backslash inside
double quotes depends on the character that follows. -/
def turn (mode : Mode) (c : Char) (following : Option Char) : Role × Mode :=
  match mode with
  | .bare =>
    if c = '\'' then (.delimiter, .single)
    else if c = '"' then (.delimiter, .double)
    else if c = '\\' then (.removed, .escaped)
    else if isBlank c then (.separator, .bare)
    else (.plain, .bare)
  | .single => if c = '\'' then (.delimiter, .bare) else (.literal, .single)
  | .double =>
    if c = '"' then (.delimiter, .bare)
    else if c = '\\' ∧ following.any isEscapable then (.removed, .doubleEscaped)
    else (.doubled, .double)
  | .escaped => if c = '\n' then (.removed, .bare) else (.literal, .bare)
  | .doubleEscaped => if c = '\n' then (.removed, .double) else (.literal, .double)

/-- Marks the characters of a line. A line that ends inside quotes or after a backslash that quotes
nothing is not accepted. -/
def marks? : Mode → List Char → Option (List Mark)
  | .bare, [] => some []
  | _, [] => none
  | mode, c :: rest =>
    (marks? (mode.turn c rest.head?).2 rest).map (⟨c, (mode.turn c rest.head?).1⟩ :: ·)

end Mode

namespace Mark

def isSeparator (mark : Mark) : Bool :=
  mark.role == .separator

/-- The character that a mark leaves in its word. -/
def kept? (mark : Mark) : Option Char :=
  match mark.role with
  | .plain | .literal | .doubled => some mark.char
  | .separator | .delimiter | .removed => none

/-- Marks between two separators are a word if any of them is left; quotes around nothing are. -/
def isWord (marks : List Mark) : Bool :=
  marks.any (·.role != .removed)

/-- The word that is left of marks. -/
def word (marks : List Mark) : String :=
  String.ofList (marks.filterMap kept?)

/-- The words of a marked line. -/
def words (marks : List Mark) : List String :=
  ((marks.splitOnP isSeparator).filter isWord).map word

/-- Nothing happens at a mark apart from quoting: words are parted by spaces, no backslash quotes,
what stands outside quotes is safe, and double quotes hold single quotes only. -/
def isHarmless (mark : Mark) : Bool :=
  match mark.role with
  | .separator => mark.char == ' '
  | .delimiter => mark.char == '\'' || mark.char == '"'
  | .removed => false
  | .plain => isSafe mark.char
  | .literal => true
  | .doubled => mark.char == '\''

end Mark

/-- The words that a POSIX shell reads on a line. -/
def shellWords (line : String) : Option (List String) :=
  (Mode.marks? .bare line.toList).map Mark.words

namespace Mode

/-- Marking accounts for every character of a line, in order. -/
theorem map_char_marks? {mode : Mode} {line : List Char} {marks : List Mark}
    (h : mode.marks? line = some marks) : marks.map Mark.char = line := by
  induction line generalizing mode marks with
  | nil => cases mode <;> simp_all [marks?]
  | cons c rest ih =>
      rw [marks?, Option.map_eq_some_iff] at h
      obtain ⟨tail, hTail, rfl⟩ := h
      rw [List.map_cons, ih hTail]

/-- From one mode a text is read as these marks, and whatever follows it from the other mode. -/
def Reads (before : Mode) (text : List Char) (marks : List Mark) (after : Mode) : Prop :=
  ∀ rest, before.marks? (text ++ rest) = (after.marks? rest).map (marks ++ ·)

theorem Reads.nil (mode : Mode) : Reads mode [] [] mode := by
  intro rest
  simp

/-- Runs of the reader can be put together where the first one ends in the mode in which the second
one begins. -/
theorem Reads.trans {before middle after : Mode} {first second : List Char}
    {left right : List Mark} (hFirst : Reads before first left middle)
    (hSecond : Reads middle second right after) :
    Reads before (first ++ second) (left ++ right) after := by
  intro rest
  rw [List.append_assoc, hFirst, hSecond, Option.map_map]
  simp [Function.comp_def]

/-- A character whose part does not depend on what follows is read by itself. -/
theorem Reads.char {mode after : Mode} {c : Char} {role : Role}
    (h : ∀ following, mode.turn c following = (role, after)) :
    Reads mode [c] [⟨c, role⟩] after := by
  intro rest
  simp [marks?, h]

/-- A line that is read from outside quotes to outside quotes is accepted. -/
theorem Reads.marks?_eq {line : List Char} {marks : List Mark} (h : Reads .bare line marks .bare) :
    marks? .bare line = some marks := by
  simpa [marks?] using h []

theorem ne_of_isSafe {c d : Char} (h : isSafe c = true) (hd : isSafe d = false) : c ≠ d := by
  rintro rfl
  simp [h] at hd

/-- A safe character stands for itself outside quotes. -/
theorem Reads.safe {c : Char} (h : isSafe c = true) :
    Reads .bare [c] [⟨c, .plain⟩] .bare := by
  apply Reads.char
  intro following
  have hSingle : c ≠ '\'' := ne_of_isSafe h (by decide)
  have hDouble : c ≠ '"' := ne_of_isSafe h (by decide)
  have hBackslash : c ≠ '\\' := ne_of_isSafe h (by decide)
  have hSpace : c ≠ ' ' := ne_of_isSafe h (by decide)
  have hTab : c ≠ '\t' := ne_of_isSafe h (by decide)
  have hNewline : c ≠ '\n' := ne_of_isSafe h (by decide)
  simp [turn, isBlank, *]

theorem Reads.space : Reads .bare [' '] [⟨' ', .separator⟩] .bare :=
  Reads.char fun _ => rfl

theorem Reads.openSingle : Reads .bare ['\''] [⟨'\'', .delimiter⟩] .single :=
  Reads.char fun _ => rfl

theorem Reads.closeSingle : Reads .single ['\''] [⟨'\'', .delimiter⟩] .bare :=
  Reads.char fun _ => rfl

/-- Inside single quotes every other character stands for itself. -/
theorem Reads.inSingle {c : Char} (h : c ≠ '\'') :
    Reads .single [c] [⟨c, .literal⟩] .single :=
  Reads.char fun _ => by simp [turn, h]

end Mode

namespace Mark

/-- The marks of a single quote that is written inside single quotes. -/
def splice : List Mark :=
  [⟨'\'', .delimiter⟩, ⟨'"', .delimiter⟩, ⟨'\'', .doubled⟩, ⟨'"', .delimiter⟩, ⟨'\'', .delimiter⟩]

/-- The marks of what stands between the outer quotes of an argument. -/
def inQuotes (arg : List Char) : List Mark :=
  arg.flatMap fun c => if c = '\'' then splice else [⟨c, .literal⟩]

/-- The marks of a quoted argument. -/
def ofArg (arg : List Char) : List Mark :=
  if arg.isEmpty then [⟨'\'', .delimiter⟩, ⟨'\'', .delimiter⟩]
  else if arg.all isSafe then arg.map (⟨·, .plain⟩)
  else ⟨'\'', .delimiter⟩ :: (inQuotes arg ++ [⟨'\'', .delimiter⟩])

end Mark

namespace Mode

/-- The quotes are left and entered again four times, and single quotes are in force afterwards. -/
theorem Reads.splicedQuote : Reads .single splicedQuote Mark.splice .single := by
  intro rest
  simp [CommandLine.splicedQuote, Mark.splice, marks?, turn, Function.comp_def]

/-- The splice closes and opens quotes, so that the reader is inside of them again after each single
quote. -/
theorem Reads.spliceQuotes (arg : List Char) :
    Reads .single (spliceQuotes arg) (Mark.inQuotes arg) .single := by
  induction arg with
  | nil => exact Reads.nil .single
  | cons c rest ih =>
      rw [CommandLine.spliceQuotes, Mark.inQuotes, List.flatMap_cons, List.flatMap_cons]
      apply Reads.trans _ ih
      split
      · exact Reads.splicedQuote
      · exact Reads.inSingle ‹_›

/-- Safe characters are read as they are and do not change the mode. -/
theorem Reads.allSafe {arg : List Char} (h : arg.all isSafe = true) :
    Reads .bare arg (arg.map (⟨·, .plain⟩)) .bare := by
  induction arg with
  | nil => exact Reads.nil .bare
  | cons c rest ih =>
      simp only [List.all_cons, Bool.and_eq_true] at h
      exact (Reads.safe h.1).trans (ih h.2)

/-- A quoted argument begins and ends outside quotes, so it can stand next to anything. -/
theorem Reads.quotePosix (arg : List Char) :
    Reads .bare (quotePosix arg) (Mark.ofArg arg) .bare := by
  unfold CommandLine.quotePosix Mark.ofArg
  split
  · exact Reads.openSingle.trans Reads.closeSingle
  split
  · exact Reads.allSafe ‹_›
  · exact Reads.openSingle.trans ((Reads.spliceQuotes arg).trans Reads.closeSingle)

/-- A line of arguments is read argument by argument, with a separator between two of them. -/
theorem Reads.intercalate (args : List (List Char)) :
    Reads .bare ([' '].intercalate (args.map CommandLine.quotePosix))
      ([⟨' ', .separator⟩].intercalate (args.map Mark.ofArg)) .bare := by
  induction args with
  | nil => exact Reads.nil .bare
  | cons arg rest ih =>
      cases rest with
      | nil => simpa using Reads.quotePosix arg
      | cons next rest =>
          simp only [List.map_cons, List.intercalate_cons_cons] at ih ⊢
          exact ((Reads.quotePosix arg).trans Reads.space).trans ih

end Mode

namespace Mark

variable {mark : Mark} {arg : List Char}

/-- What is kept of a quoted argument is the argument. -/
theorem filterMap_kept?_inQuotes (arg : List Char) : (inQuotes arg).filterMap kept? = arg := by
  induction arg with
  | nil => rfl
  | cons c rest ih =>
      rw [inQuotes, List.flatMap_cons, List.filterMap_append, ← inQuotes, ih]
      split
      · subst c
        rfl
      · rfl

/-- Nothing but quotes is lost from an argument. -/
theorem word_ofArg (arg : List Char) : word (ofArg arg) = String.ofList arg := by
  have hKept : (ofArg arg).filterMap kept? = arg := by
    unfold ofArg
    split
    · simp_all [kept?]
    split
    · simp [List.filterMap_map, Function.comp_def, kept?]
    · simp [List.filterMap_cons, kept?, filterMap_kept?_inQuotes]
  rw [word, hKept]

theorem mem_splice (h : mark ∈ splice) : mark.isHarmless = true ∧ mark.isSeparator = false := by
  revert mark
  decide

/-- Nothing inside of quotes separates words or does anything else. -/
theorem mem_inQuotes (h : mark ∈ inQuotes arg) :
    mark.isHarmless = true ∧ mark.isSeparator = false := by
  obtain ⟨c, _, hMark⟩ := List.mem_flatMap.1 h
  split at hMark
  · exact mem_splice hMark
  · rw [List.mem_singleton.1 hMark]
    exact ⟨rfl, rfl⟩

/-- An argument holds no separator, whatever blanks are in it. -/
theorem mem_ofArg (h : mark ∈ ofArg arg) :
    mark.isHarmless = true ∧ mark.isSeparator = false := by
  unfold ofArg at h
  split at h
  · simp only [List.mem_cons, List.not_mem_nil, or_false, or_self] at h
    exact h ▸ ⟨rfl, rfl⟩
  split at h
  · rename_i hSafe
    obtain ⟨c, hc, rfl⟩ := List.mem_map.1 h
    exact ⟨List.all_eq_true.1 hSafe c hc, rfl⟩
  · simp only [List.mem_cons, List.mem_append, List.not_mem_nil, or_false] at h
    rcases h with rfl | h | rfl
    · exact ⟨rfl, rfl⟩
    · exact mem_inQuotes h
    · exact ⟨rfl, rfl⟩

/-- Even the empty argument leaves something on the line, which tells it from none. -/
theorem ofArg_ne_nil (arg : List Char) : ofArg arg ≠ [] := by
  unfold ofArg
  split
  · simp
  split
  · simp_all
  · simp

/-- A quoted argument is a word even if it is empty. -/
theorem isWord_ofArg (arg : List Char) : isWord (ofArg arg) = true := by
  obtain ⟨mark, rest, hArg⟩ := List.exists_cons_of_ne_nil (ofArg_ne_nil arg)
  have hHarmless := (mem_ofArg (hArg ▸ List.mem_cons_self : mark ∈ ofArg arg)).1
  have hRole : mark.role ≠ .removed := by
    intro hRole
    simp [isHarmless, hRole] at hHarmless
  simp [isWord, hArg, hRole]

/-- The marks of a line of arguments. -/
def ofLine (args : List (List Char)) : List Mark :=
  [⟨' ', .separator⟩].intercalate (args.map ofArg)

theorem mem_ofLine {args : List (List Char)} (h : mark ∈ ofLine args) :
    mark.isHarmless = true := by
  induction args with
  | nil => simp [ofLine] at h
  | cons arg rest ih =>
      cases rest with
      | nil => exact (mem_ofArg (by simpa [ofLine] using h)).1
      | cons next rest =>
          simp only [ofLine, List.map_cons, List.intercalate_cons_cons, List.mem_append,
            List.mem_singleton] at h ih
          rcases h with (h | rfl) | h
          · exact (mem_ofArg h).1
          · rfl
          · exact ih h

theorem filter_isSeparator_ofArg (arg : List Char) : (ofArg arg).filter isSeparator = [] :=
  List.filter_eq_nil_iff.2 fun _ h => by simp [(mem_ofArg h).2]

/-- Two arguments have one space between them. -/
theorem filter_isSeparator_ofLine (args : List (List Char)) :
    (ofLine args).filter isSeparator = List.replicate (args.length - 1) ⟨' ', .separator⟩ := by
  induction args with
  | nil => rfl
  | cons arg rest ih =>
      cases rest with
      | nil => simpa [ofLine] using filter_isSeparator_ofArg arg
      | cons next rest =>
          simp only [ofLine, List.map_cons, List.intercalate_cons_cons, List.filter_append,
            filter_isSeparator_ofArg] at ih ⊢
          rw [ih]
          rfl

/-- Separators on a joined line stand between arguments and nowhere else. -/
theorem splitOnP_ofLine (args : List (List Char)) (h : args ≠ []) :
    (ofLine args).splitOnP isSeparator = args.map ofArg := by
  induction args with
  | nil => exact absurd rfl h
  | cons arg rest ih =>
      have hArg : ∀ mark ∈ ofArg arg, isSeparator mark = false := fun _ h => (mem_ofArg h).2
      cases rest with
      | nil => simpa [ofLine] using List.splitOnP_eq_singleton hArg
      | cons next rest =>
          have hNext := ih (by simp)
          simp only [ofLine, List.map_cons, List.intercalate_cons_cons, List.append_assoc,
            List.singleton_append] at hNext ⊢
          rw [List.splitOnP_append_cons_of_forall_mem hArg _ rfl, hNext]

/-- The words between the separators are the arguments, and none is lost. -/
theorem filter_isWord_ofLine (args : List (List Char)) :
    ((ofLine args).splitOnP isSeparator).filter isWord = args.map ofArg := by
  cases args with
  | nil => rfl
  | cons arg rest =>
      rw [splitOnP_ofLine _ (by simp), List.filter_eq_self]
      intro marks hMarks
      obtain ⟨_, _, rfl⟩ := List.mem_map.1 hMarks
      exact isWord_ofArg _

theorem words_ofLine (args : List (List Char)) : words (ofLine args) = args.map String.ofList := by
  rw [words, filter_isWord_ofLine, List.map_map]
  exact List.map_congr_left fun arg _ => word_ofArg arg

end Mark

/-- A joined line is marked as its arguments are, one after the other. -/
theorem marks?_join (args : List String) :
    Mode.marks? .bare (join .posix args).toList = some (Mark.ofLine (args.map String.toList)) := by
  have hLine := (Mode.Reads.intercalate (args.map String.toList)).marks?_eq
  rw [toList_join]
  simpa only [Mark.ofLine, List.map_map, quoteChars, Function.comp_def] using hLine

/-- A POSIX shell reads a joined line as exactly the arguments, whatever they hold. The marks cover
the line; the separators among them are single spaces, one between two arguments, and all else
that stands outside quotes is a quotation mark or a safe character. -/
theorem shellWords_join (args : List String) :
    shellWords (join .posix args) = some args ∧
    ∃ marks, Mode.marks? .bare (join .posix args).toList = some marks ∧
      marks.map Mark.char = (join .posix args).toList ∧
      marks.filter Mark.isSeparator = List.replicate (args.length - 1) ⟨' ', .separator⟩ ∧
      marks.all Mark.isHarmless = true := by
  have hMarks := marks?_join args
  refine ⟨?_, _, hMarks, Mode.map_char_marks? hMarks, ?_, ?_⟩
  · rw [shellWords, hMarks, Option.map_some, Mark.words_ofLine, List.map_map]
    simp [Function.comp_def]
  · simpa using Mark.filter_isSeparator_ofLine (args.map String.toList)
  · exact List.all_eq_true.2 fun _ h => Mark.mem_ofLine h

/-- The reader knows more ways of quoting than a joined line uses. -/
example : shellWords "a\\ b \"c\\\"\\d\" e''f\t''" = some ["a b", "c\"\\d", "ef", ""] := by decide

end ToolGate.CommandLine
