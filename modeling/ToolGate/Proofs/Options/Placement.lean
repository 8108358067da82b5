import ToolGate.Invocation
import ToolGate.Proofs.Execution.Trace
import ToolGate.Proofs.Options.Strictness

/-! The options of the whole program, which may stand before the action and between the action and
its first argument. A line is followed from item to item, and it makes no difference on which side
of the action an item was read. -/
namespace ToolGate.Invocation

open Options

def rootOption : OptionSpec :=
  (grammar.findLong? "root".toList).get (by rfl)

def noColorOption : OptionSpec :=
  (grammar.findLong? "no-color".toList).get (by rfl)

/-- An option as it is written on a command line. A root is not empty, and one that stands alone
does not begin with a dash. -/
inductive Item where
  /-- `--no-color` -/
  | noColor
  /-- `--root=` and a root. -/
  | attached (root : String) (nonempty : root ≠ "")
  /-- `--root` and a root as the next word. -/
  | separate (root : String) (nonempty : root ≠ "") (undashed : root.toList.head? ≠ some '-')
  deriving DecidableEq

namespace Item

def words : Item → List String
  | .noColor => ["--no-color"]
  | .attached root _ => ["--root=" ++ root]
  | .separate root _ _ => ["--root", root]

/-- The root that an item chooses. -/
def root? : Item → Option String
  | .noColor => none
  | .attached root _ => some root
  | .separate root _ _ => some root

def option : Item → OptionSpec
  | .noColor => noColorOption
  | .attached _ _ => rootOption
  | .separate _ _ _ => rootOption

/-- What is on record after one more item. -/
def record (given : List Given) (item : Item) : List Given :=
  Progress.record item.option item.root?.toList given

end Item

/-- What is on record after more items. -/
def recordAll (given : List Given) (items : List Item) : List Given :=
  items.foldl Item.record given

/-- What the items of a line say, each of the two things at most once. -/
structure Says (items : List Item) (root : Option String) (noColor : Bool) : Prop where
  root_eq : items.filterMap Item.root? = root.toList
  noColor_eq : items.count .noColor = noColor.toNat

variable {given : List Given} {words rest : List String} {items : List Item}
  {reading : Reading}

/-- The option for the root is read wherever it stands, with a value attached or without one. -/
theorem meaning_rootOption (attached : Option String) (verbatim : Bool) :
    grammar.meaning verbatim (rootOption.spelling attached) = .long rootOption attached := by
  apply Grammar.meaning_spelling <;> decide

theorem meaning_noColorOption (verbatim : Bool) :
    grammar.meaning verbatim "--no-color" = .long noColorOption none := by
  have hName : "--no-color" = noColorOption.spelling none := by decide
  rw [hName]
  apply Grammar.meaning_spelling <;> decide

theorem meaning_undashed {text : String} (h : text.toList.head? ≠ some '-') (verbatim : Bool) :
    grammar.meaning verbatim text = .word := by
  rw [Grammar.meaning, Word.read_of_head?_ne h]

theorem kind_rootOption : rootOption.kind = .value "PATH" false false := rfl

theorem kind_noColorOption : noColorOption.kind = .switch := rfl

theorem rootOption_ne_noColorOption : rootOption ≠ noColorOption := by decide

theorem Item.option_mem (item : Item) : item.option ∈ grammar.options := by
  have hBoth : rootOption ∈ grammar.options ∧ noColorOption ∈ grammar.options := by decide
  cases item with
  | noColor => exact hBoth.2
  | attached root nonempty => exact hBoth.1
  | separate root nonempty undashed => exact hBoth.1

/-- An item is accepted if its option is not on record, wherever it stands. -/
theorem readFrom_item (item : Item) :
    grammar.readFrom ⟨given, words, .nothing⟩ (item.words ++ rest) = .ok reading ↔
      item.option ∉ given.map Given.option ∧
        grammar.readFrom ⟨item.record given, words, .nothing⟩ rest = .ok reading := by
  cases item with
  | noColor =>
      simp only [Item.words, List.singleton_append,
        Grammar.readFrom_spelling meaning_noColorOption,
        Progress.give_switch_eq_ok_iff given words kind_noColorOption]
      simp [Item.option, Item.root?, Item.record]
  | attached root nonempty =>
      have hWord : "--root=" ++ root = rootOption.spelling (some root) := by
        have hName : "--root=" = "--" ++ "root" ++ "=" := by decide
        rw [hName, String.append_assoc]
        rfl
      simp only [Item.words, List.singleton_append, hWord,
        Grammar.readFrom_spelling (meaning_rootOption (some root)),
        Progress.give_strict_eq_ok_iff kind_rootOption]
      simp [Item.option, Item.root?, Item.record, nonempty]
  | separate root nonempty undashed =>
      have hWord : "--root" = rootOption.spelling none := by decide
      simp only [Item.words, List.cons_append, List.nil_append, hWord,
        Grammar.readFrom_spelling (meaning_rootOption none),
        Progress.give_value given words kind_rootOption, Except.ok.injEq, exists_eq_left',
        Grammar.readFrom_waiting_word (meaning_undashed undashed),
        Grammar.readFrom_strict_eq_ok_iff kind_rootOption]
      simp [Item.option, Item.root?, Item.record, nonempty]

/-- On record is what was there before, and what the items say, here for the options of the program.
-/
theorem mem_options_recordAll {option : OptionSpec} :
    option ∈ (recordAll given items).map Given.option ↔
      option ∈ given.map Given.option ∨ ∃ item ∈ items, item.option = option :=
  Progress.mem_options_foldl

/-- No option is given twice, those on record counted. -/
def Fresh (given : List Given) (items : List Item) : Prop :=
  (items.map Item.option).Nodup ∧ ∀ item ∈ items, item.option ∉ given.map Given.option

/-- Items are fresh together if the later ones are fresh after the earlier ones. -/
theorem fresh_append {first second : List Item} :
    Fresh given (first ++ second) ↔ Fresh given first ∧ Fresh (recordAll given first) second := by
  simp only [Fresh, mem_options_recordAll, List.map_append, List.nodup_append,
    List.forall_mem_append, List.forall_mem_map, not_or, not_exists, not_and]
  constructor
  · rintro ⟨⟨hFirst, hSecond, hApart⟩, hOld, hNew⟩
    exact ⟨⟨hFirst, hOld⟩, hSecond, fun item hItem =>
      ⟨hNew item hItem, fun other hOther => hApart other hOther item hItem⟩⟩
  · rintro ⟨⟨hFirst, hOld⟩, hSecond, hNew⟩
    exact ⟨⟨hFirst, hSecond, fun other hOther item hItem => (hNew item hItem).2 other hOther⟩,
      hOld, fun item hItem => (hNew item hItem).1⟩

/-- Items are read one after the other. The invariant is that nothing waits between them. -/
theorem readFrom_items :
    grammar.readFrom ⟨given, words, .nothing⟩ (items.flatMap Item.words ++ rest) = .ok reading ↔
      Fresh given items ∧
        grammar.readFrom ⟨recordAll given items, words, .nothing⟩ rest = .ok reading := by
  induction items generalizing given with
  | nil => simp [Fresh, recordAll]
  | cons item items ih =>
      have hFresh : Fresh given [item] ↔ item.option ∉ given.map Given.option := by simp [Fresh]
      rw [List.flatMap_cons, List.append_assoc, readFrom_item, ih, ← List.singleton_append,
        fresh_append, hFresh, and_assoc]
      rfl

/-- Once the action has been read, only the record tells where an option stood. -/
theorem readFrom_action {action : String} (hAction : action.toList.head? ≠ some '-')
    (before after : List Item) :
    grammar.readFrom .start
        (before.flatMap Item.words ++ action :: (after.flatMap Item.words ++ rest)) = .ok reading ↔
      ((before ++ after).map Item.option).Nodup ∧
        grammar.readFrom ⟨recordAll [] (before ++ after), [action], .nothing⟩ rest =
          .ok reading := by
  have hFresh : Fresh [] (before ++ after) ↔ ((before ++ after).map Item.option).Nodup := by
    simp [Fresh]
  have hRecord : recordAll [] (before ++ after) = recordAll (recordAll [] before) after :=
    List.foldl_append
  have hPlace : ([] : List String).length < grammar.leading.length := by decide
  rw [Progress.start, readFrom_items, Grammar.readFrom_leading hPlace (meaning_undashed hAction),
    List.nil_append, readFrom_items, ← and_assoc, ← fresh_append, hFresh, hRecord]

/-- Nothing that can be on record is wrong with a line that has its action. -/
theorem finish_action (given : List Given) (action : String) (args : List String) :
    grammar.finish ⟨given, [action], .nothing⟩ args = .ok ⟨given, [action], args⟩ := by
  have hHelp : (grammar.helpWhenEmpty && [action].isEmpty) = false := rfl
  have hConflict : grammar.conflict? (given.map Given.option) = none :=
    Grammar.conflict?_eq_none_iff.2 fun _ _ _ _ => rfl
  exact (Grammar.finish_eq_ok_iff hHelp given args).2 ⟨hConflict, rfl, rfl⟩

/-- After the separator everything is left to the action, whatever it looks like. -/
theorem readFrom_escaped (given : List Given) (action : String) (args : List String) :
    grammar.readFrom ⟨given, [action], .nothing⟩ ("--" :: args) =
      .ok ⟨given, [action], args⟩ := by
  have hFull : grammar.leading.length ≤ [action].length := Nat.le_refl 1
  rw [Grammar.readFrom_escape hFull (by decide), finish_action]

/-- The arguments of an action begin with the first word that is no option. -/
theorem readFrom_undashed (given : List Given) (action : String) {args : List String}
    (h : ∀ first ∈ args.head?, first.toList.head? ≠ some '-') :
    grammar.readFrom ⟨given, [action], .nothing⟩ args = .ok ⟨given, [action], args⟩ := by
  have hFull : grammar.leading.length ≤ [action].length := Nat.le_refl 1
  cases args with
  | nil => exact finish_action given action []
  | cons first rest =>
      have hWord := meaning_undashed (h first rfl) true
      rw [Grammar.readFrom_word hFull hWord, finish_action]

section Record

variable (leading trailing : List String)

/-- Roots are on record in the order in which they were given. -/
theorem values_recordAll :
    (Reading.mk (recordAll [] items) leading trailing).values "root" =
      items.filterMap Item.root? := by
  have hNames : (grammar.options.map OptionSpec.long).Nodup := by decide
  have hItem (item : Item) :
      (if item.option.long = "root" then item.root?.toList else []) = item.root?.toList := by
    cases item <;> rfl
  refine (Reading.values_foldl leading trailing hNames Item.option_mem (Recorded.nil grammar)
    items "root").trans ?_
  simp only [hItem, List.filterMap_eq_flatMap_toList]
  rfl

/-- Colours are off if and only if one of the items says so. -/
theorem has_recordAll :
    (Reading.mk (recordAll [] items) leading trailing).has "no-color" = true ↔
      .noColor ∈ items := by
  have hOther : rootOption.long ≠ "no-color" := by decide
  rw [Reading.has_iff]
  constructor
  · rintro ⟨option, hOption, hName⟩
    obtain ⟨item, hItem, rfl⟩ := (mem_options_recordAll.1 hOption).resolve_left (by simp)
    cases item with
    | noColor => exact hItem
    | attached root nonempty => exact absurd hName hOther
    | separate root nonempty undashed => exact absurd hName hOther
  · intro hItem
    exact ⟨noColorOption, mem_options_recordAll.2 (Or.inr ⟨.noColor, hItem, rfl⟩), rfl⟩

/-- What items say is what is read from their record. -/
theorem ofReading_recordAll {root : Option String} {noColor : Bool} (h : Says items root noColor)
    (action : String) (args : List String) :
    ofReading ⟨recordAll [] items, [action], args⟩ = ⟨root, noColor, action, args⟩ := by
  have hValues : (Reading.mk (recordAll [] items) [action] args).values "root" = root.toList :=
    (values_recordAll [action] args).trans h.root_eq
  have hHas : (Reading.mk (recordAll [] items) [action] args).has "no-color" = noColor := by
    rw [Bool.eq_iff_iff, has_recordAll, ← List.count_pos_iff, h.noColor_eq]
    cases noColor <;> simp
  rw [ofReading, hValues, hHas]
  cases root <;> rfl

end Record

/-- How often an option is given is how often its item occurs, which repeated options are counted
by. -/
theorem count_noColorOption (items : List Item) :
    (items.map Item.option).count noColorOption = items.count .noColor := by
  induction items with
  | nil => rfl
  | cons item items ih => cases item <;> simp [Item.option, rootOption_ne_noColorOption, ih]

theorem count_rootOption (items : List Item) :
    (items.map Item.option).count rootOption = (items.filterMap Item.root?).length := by
  induction items with
  | nil => rfl
  | cons item items ih =>
      cases item <;>
        simp [List.filterMap_cons, Item.option, Item.root?, Ne.symm rootOption_ne_noColorOption, ih]

/-- To be given at most once means the same for the items as for their options. -/
theorem nodup_iff :
    (items.map Item.option).Nodup ↔
      items.count .noColor ≤ 1 ∧ (items.filterMap Item.root?).length ≤ 1 := by
  rw [List.nodup_iff_count_le_one, ← count_noColorOption, ← count_rootOption]
  refine ⟨fun h => ⟨h noColorOption, h rootOption⟩, fun h option => ?_⟩
  by_cases hOption : option ∈ items.map Item.option
  · obtain ⟨item, -, rfl⟩ := List.mem_map.1 hOption
    cases item with
    | noColor => exact h.1
    | attached root nonempty => exact h.2
    | separate root nonempty undashed => exact h.2
  · simp [List.count_eq_zero.2 hOption]

/-- The options of the whole program say the same wherever they stand before the first argument, and
the arguments are taken as they are, after a separator or if they do not begin with a dash. An
option that is given twice is refused, whatever follows. The arguments of every accepted line are
the end of the line. -/
theorem parse_placement {action : String} (hAction : action.toList.head? ≠ some '-')
    (before after : List Item) :
    let line (rest : List String) :=
      before.flatMap Item.words ++ action :: (after.flatMap Item.words ++ rest)
    (∀ root noColor, Says (before ++ after) root noColor → ∀ args,
      parse (line ("--" :: args)) = .ok ⟨root, noColor, action, args⟩ ∧
      ((∀ first ∈ args.head?, first.toList.head? ≠ some '-') →
        parse (line args) = .ok ⟨root, noColor, action, args⟩)) ∧
    (1 < (before ++ after).count .noColor ∨ 1 < ((before ++ after).filterMap Item.root?).length →
      ∀ rest, ∃ error, parse (line rest) = .error error) ∧
    ∀ words invocation, parse words = .ok invocation → invocation.args <:+ words := by
  intro line
  have hLine (rest : List String) (invocation : Invocation) :
      parse (line rest) = .ok invocation ↔
        ∃ reading, (((before ++ after).map Item.option).Nodup ∧
          grammar.readFrom ⟨recordAll [] (before ++ after), [action], .nothing⟩ rest =
            .ok reading) ∧ ofReading reading = invocation := by
    rw [parse, Grammar.read, except_map_eq_ok_iff]
    simp only [line, readFrom_action hAction]
  refine ⟨fun root noColor hSays args => ?_, fun hTwice rest => ?_,
    fun words invocation hParse => ?_⟩
  · have hOnce : ((before ++ after).map Item.option).Nodup := by
      rw [nodup_iff, hSays.root_eq, hSays.noColor_eq]
      exact ⟨noColor.toNat_le, by cases root <;> simp⟩
    have hMeans := ofReading_recordAll hSays action args
    refine ⟨(hLine _ _).2 ⟨_, ⟨hOnce, readFrom_escaped _ action args⟩, hMeans⟩, fun hBegin => ?_⟩
    exact (hLine _ _).2 ⟨_, ⟨hOnce, readFrom_undashed _ action hBegin⟩, hMeans⟩
  · cases hParse : parse (line rest) with
    | error error => exact ⟨error, rfl⟩
    | ok invocation =>
        obtain ⟨_, ⟨hOnce, -⟩, -⟩ := (hLine rest invocation).1 hParse
        have hBoth := nodup_iff.1 hOnce
        omega
  · obtain ⟨reading, hReading, rfl⟩ := (except_map_eq_ok_iff _ _ _).1 hParse
    exact Grammar.trailing_suffix_of_readFrom hReading

/-- The arguments are a separator and two words that look like options. -/
theorem parse_placement_imitations :
    let args := ["--", "-V", "--root=x"]
    let line := ["--root", "crates/dlint", "exec", "--no-color", "--"] ++ args
    Says [.separate "crates/dlint" (by decide) (by decide), .noColor] (some "crates/dlint") true ∧
      parse line = .ok ⟨some "crates/dlint", true, "exec", args⟩ := by
  intro args line
  have hSays : Says [.separate "crates/dlint" (by decide) (by decide), .noColor]
      (some "crates/dlint") true := ⟨rfl, rfl⟩
  have hAction : "exec".toList.head? ≠ some '-' := by decide
  obtain ⟨hMeans, -, -⟩ := parse_placement hAction
    [.separate "crates/dlint" (by decide) (by decide)] [.noColor]
  exact ⟨hSays, (hMeans (some "crates/dlint") true hSays args).1⟩

end ToolGate.Invocation
