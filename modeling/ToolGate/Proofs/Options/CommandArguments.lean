import ToolGate.Proofs.Execution.Trace
import ToolGate.Proofs.Options.CommandItems

/-! The language of the arguments of a single command: options, possibly the separator, and the
command. The grammar is a type of lines, each of which carries the proof that it is well formed.
Reading accepts exactly the words of these lines, and no words belong to two lines. -/
namespace ToolGate.ExecArgs

open Options

variable {items : List Item}

/-- Options that may stand together before a command: no switch is turned on twice, the two about
the shell exclude each other, and a value that stands alone is no option. -/
structure IsProper (items : List Item) : Prop where
  once : ∀ switch, items.countP (·.switch? == some switch) ≤ 1
  exclusive : ¬ (.named .shell ∈ items ∧ .named .noShell ∈ items)
  plain : ∀ value, .separate value ∈ items → isPlain value = true

/-- What items and a command mean. -/
def ofItems (items : List Item) (command : List String) : ExecArgs where
  quiet := items.any (·.switch? == some .quiet)
  shell := items.any (·.switch? == some .shell)
  noShell := items.any (·.switch? == some .noShell)
  env := items.filterMap Item.value?
  command := command

theorem IsProper.nil : IsProper [] :=
  ⟨by simp, by simp, by simp⟩

/-- Options that are all sound, fresh and do not contradict each other. -/
theorem isProper_iff :
    IsProper items ↔ (∀ item ∈ items, item.IsSound) ∧ Fresh [] items ∧
      ¬ (.named .shell ∈ items ∧ .named .noShell ∈ items) := by
  have hFresh : Fresh [] items ↔ ∀ switch, items.countP (·.switch? == some switch) ≤ 1 := by
    simp [Fresh]
  have hSound : (∀ item ∈ items, item.IsSound) ↔
      ∀ value, .separate value ∈ items → isPlain value = true := by
    constructor
    · intro h value hValue
      exact h _ hValue
    · intro h item hItem
      cases item with
      | letter => trivial
      | named switch => trivial
      | attached value => trivial
      | separate value => exact h value hItem
  rw [hFresh, hSound]
  exact ⟨fun h => ⟨h.plain, h.once, h.exclusive⟩, fun h => ⟨h.2.1, h.2.2, h.1⟩⟩

/-- What is read is what was written, if it may be written. -/
theorem parse_items_eq_ok_iff {separated : Bool} {command : List String}
    (hBegin : CanBegin separated command) (args : ExecArgs) :
    parse (items.flatMap Item.words ++ ending separated command) = .ok args ↔
      IsProper items ∧ command ≠ [] ∧ args = ofItems items command := by
  have hReading : ofReading ⟨recordAll [] items, [], command⟩ = ofItems items command := by
    have hHas := has_recordAll items [] command
    have hValues := values_recordAll (Recorded.nil grammar) items [] command
    simp only [ofReading, ofItems, ExecArgs.mk.injEq]
    exact ⟨hHas .quiet, hHas .shell, hHas .noShell, hValues, trivial⟩
  have hHelp : (grammar.helpWhenEmpty && ([] : List String).isEmpty) = false := rfl
  rw [parse, Grammar.read, except_map_eq_ok_iff, isProper_iff]
  simp only [Progress.start, readFrom_items hBegin, Grammar.finish_eq_ok_iff hHelp,
    conflict?_recordAll_eq_none_iff, missing_eq_nil_iff]
  constructor
  · rintro ⟨_, ⟨hSound, hFresh, hExclusive, hCommand, rfl⟩, rfl⟩
    exact ⟨⟨hSound, hFresh, hExclusive⟩, hCommand, hReading⟩
  · rintro ⟨⟨hSound, hFresh, hExclusive⟩, hCommand, rfl⟩
    exact ⟨_, ⟨hSound, hFresh, hExclusive, hCommand, rfl⟩, hReading⟩

/-- A well-formed line: options, possibly the separator, and a command, which without the separator
does not begin like an option. -/
structure Line where
  items : List Item
  separated : Bool
  command : List String
  proper : IsProper items
  command_ne_nil : command ≠ []
  canBegin : CanBegin separated command

namespace Line

def words (line : Line) : List String :=
  line.items.flatMap Item.words ++ ending line.separated line.command

end Line

/-- The items of a line can be told from its words. -/
theorem items_unique {first second : List Item} {separated alsoSeparated : Bool}
    {command other : List String} (hFirst : CanBegin separated command)
    (hSecond : CanBegin alsoSeparated other)
    (h : first.flatMap Item.words ++ ending separated command =
      second.flatMap Item.words ++ ending alsoSeparated other) :
    first = second ∧ ending separated command = ending alsoSeparated other := by
  induction first generalizing second with
  | nil =>
      cases second with
      | nil => exact ⟨rfl, h⟩
      | cons item items =>
          rw [List.flatMap_cons, List.append_assoc] at h
          exact absurd h (ending_ne_words hFirst item _)
  | cons item items ih =>
      cases second with
      | nil =>
          rw [List.flatMap_cons, List.append_assoc] at h
          exact absurd h.symm (ending_ne_words hSecond item _)
      | cons item' items' =>
          rw [List.flatMap_cons, List.flatMap_cons, List.append_assoc, List.append_assoc] at h
          obtain ⟨rfl, hRest⟩ := Item.words_append_inj h
          obtain ⟨rfl, hEnding⟩ := ih hRest
          exact ⟨rfl, hEnding⟩

/-- A command line stands for one list of options and one command. -/
theorem Line.words_injective : Function.Injective Line.words := by
  rintro ⟨items, separated, command, _, hCommand, hBegin⟩
    ⟨items', separated', command', _, hCommand', hBegin'⟩ h
  obtain ⟨rfl, hEnding⟩ := items_unique hBegin hBegin' h
  obtain ⟨rfl, rfl⟩ := ending_inj hBegin hBegin' hEnding
  rfl

/-- A switch is on if and only if its option is there, as long as it has only one spelling. -/
theorem any_switch?_iff (items : List Item) {switch : Switch} (h : switch ≠ .quiet) :
    items.any (·.switch? == some switch) = true ↔ .named switch ∈ items := by
  simp [Item.switch?_eq_some_iff h]

/-- The one switch with a letter is on in either spelling. -/
theorem any_quiet_iff (items : List Item) :
    items.any (·.switch? == some .quiet) = true ↔ .letter ∈ items ∨ .named .quiet ∈ items := by
  have hItem (item : Item) :
      item.switch? = some .quiet ↔ item = .letter ∨ item = .named .quiet := by
    cases item <;> simp [Item.switch?]
  simp only [List.any_eq_true, beq_iff_eq, hItem, and_or_left, exists_or, exists_eq_right]

/-- Every proper line is accepted, and its result has all that the line says. -/
theorem Line.parse_words (line : Line) :
    parse line.words = .ok (ofItems line.items line.command) :=
  (parse_items_eq_ok_iff line.canBegin _).2 ⟨line.proper, line.command_ne_nil, rfl⟩

/-- Nothing but proper lines is accepted. -/
theorem exists_line_of_parse {words : List String} {args : ExecArgs}
    (h : parse words = .ok args) : ∃ line : Line, line.words = words := by
  obtain ⟨reading, hReading, -⟩ := (except_map_eq_ok_iff _ _ _).1 h
  obtain ⟨items, separated, command, rfl, hBegin⟩ := exists_items_of_readFrom [] words hReading
  obtain ⟨hProper, hCommand, -⟩ := (parse_items_eq_ok_iff hBegin args).1 h
  exact ⟨⟨items, separated, command, hProper, hCommand, hBegin⟩, rfl⟩

theorem command_ne_nil_of_parse {words : List String} {args : ExecArgs}
    (h : parse words = .ok args) : args.command ≠ [] := by
  obtain ⟨line, rfl⟩ := exists_line_of_parse h
  rw [line.parse_words] at h
  obtain rfl := Except.ok.inj h
  exact line.command_ne_nil

/-- Exactly the words of well-formed lines are accepted, and a line is determined by its words. What
is read are the switches that the items turn on, the variables in order and the command as it
stands; the choice about the shell is made by the switch that occurs. -/
theorem parse_exact :
    (∀ words, (∃ args, parse words = .ok args) ↔ ∃ line : Line, line.words = words) ∧
    Function.Injective Line.words ∧
    ∀ line : Line, ∃ args, parse line.words = .ok args ∧
      (args.quiet = true ↔ .letter ∈ line.items ∨ .named .quiet ∈ line.items) ∧
      (args.shell = true ↔ .named .shell ∈ line.items) ∧
      (args.noShell = true ↔ .named .noShell ∈ line.items) ∧
      args.env = line.items.filterMap Item.value? ∧
      args.command = line.command ∧
      args.shellChoice =
        if .named .shell ∈ line.items then some true
        else if .named .noShell ∈ line.items then some false
        else none := by
  refine ⟨fun words => ⟨fun ⟨args, h⟩ => exists_line_of_parse h, ?_⟩, Line.words_injective,
    fun line => ⟨_, line.parse_words, ?_⟩⟩
  · rintro ⟨line, rfl⟩
    exact ⟨_, line.parse_words⟩
  have hShell := any_switch?_iff line.items (show Switch.shell ≠ .quiet by decide)
  have hNoShell := any_switch?_iff line.items (show Switch.noShell ≠ .quiet by decide)
  refine ⟨any_quiet_iff line.items, hShell, hNoShell, rfl, rfl, ?_⟩
  simp only [shellChoice, ofItems, hShell, hNoShell]

/-- A dash is a value, and a word is no option for beginning like one: the command starts there. -/
example : (parse ["--env", "-", "-qx", "--=x"]).toOption =
    some ⟨false, false, false, ["-"], ["-qx", "--=x"]⟩ := by decide

end ToolGate.ExecArgs
