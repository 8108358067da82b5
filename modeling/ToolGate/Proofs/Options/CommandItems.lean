import ToolGate.Proofs.Options.OptionWords
import ToolGate.Proofs.Options.Steps

/-! The options before a single command, as they are written, and how a line of them is read. One
item is read after the other, and what is on record in the end can be told from the items alone. -/
namespace ToolGate.ExecArgs

open Options

/-- The options without a value. -/
inductive Switch where
  | quiet
  | shell
  | noShell
  deriving DecidableEq, Repr

namespace Switch

def name : Switch → String
  | .quiet => "quiet"
  | .shell => "shell"
  | .noShell => "no-shell"

/-- The switch as the grammar knows it. -/
def option (switch : Switch) : OptionSpec :=
  (grammar.findLong? switch.name.toList).get (by cases switch <;> rfl)

theorem long_option (switch : Switch) : switch.option.long = switch.name := by
  cases switch <;> rfl

theorem kind_option (switch : Switch) : switch.option.kind = .switch := by
  cases switch <;> rfl

theorem option_mem (switch : Switch) : switch.option ∈ grammar.options := by
  cases switch <;> decide

/-- Switches can be told apart by their options. -/
theorem option_inj {first second : Switch} : first.option = second.option ↔ first = second := by
  cases first <;> cases second <;> decide

/-- The long name of a switch is read as that switch, also with a value attached, which is refused
later. -/
theorem meaning_option (switch : Switch) (attached : Option String) :
    grammar.meaning true (switch.option.spelling attached) = .long switch.option attached := by
  apply Grammar.meaning_spelling <;> cases switch <;> decide

end Switch

/-- The option that sets a variable. -/
def envOption : OptionSpec :=
  (grammar.findLong? "env".toList).get (by rfl)

/-- The option that asks for the help text. -/
def helpOption : OptionSpec :=
  (grammar.findLong? "help".toList).get (by rfl)

/-- The option for variables is read by its long name, with a value attached or without one. -/
theorem meaning_envOption (attached : Option String) :
    grammar.meaning true (envOption.spelling attached) = .long envOption attached := by
  apply Grammar.meaning_spelling <;> decide

theorem kind_envOption : envOption.kind = .value "KEY=VALUE" true true := rfl

theorem envOption_mem : envOption ∈ grammar.options := by decide

theorem option_ne_envOption (switch : Switch) : switch.option ≠ envOption := by
  cases switch <;> decide

/-- The grammar has no other options than these. -/
theorem mem_options_iff {option : OptionSpec} :
    option ∈ grammar.options ↔
      (∃ switch : Switch, option = switch.option) ∨ option = envOption ∨ option = helpOption := by
  have hOptions : grammar.options = [Switch.quiet.option, Switch.shell.option,
      Switch.noShell.option, envOption, helpOption] := rfl
  rw [hOptions]
  constructor
  · simp only [List.mem_cons, List.not_mem_nil, or_false]
    rintro (h | h | h | h | h)
    · exact Or.inl ⟨.quiet, h⟩
    · exact Or.inl ⟨.shell, h⟩
    · exact Or.inl ⟨.noShell, h⟩
    · exact Or.inr (Or.inl h)
    · exact Or.inr (Or.inr h)
  · rintro (⟨switch, rfl⟩ | rfl | rfl)
    · cases switch <;> simp
    · simp
    · simp

/-- An option as it is written on a command line. -/
inductive Item where
  /-- `-q` -/
  | letter
  /-- Two dashes and the name of a switch. -/
  | named (switch : Switch)
  /-- `--env=` and a value. -/
  | attached (value : String)
  /-- `--env` and a value as the next word. -/
  | separate (value : String)
  deriving DecidableEq, Repr

namespace Item

def words : Item → List String
  | .letter => ["-q"]
  | .named switch => ["--" ++ switch.name]
  | .attached value => ["--env=" ++ value]
  | .separate value => ["--env", value]

/-- The switch that an item turns on. -/
def switch? : Item → Option Switch
  | .letter => some .quiet
  | .named switch => some switch
  | .attached _ => none
  | .separate _ => none

/-- The variable that an item sets, as it is written. -/
def value? : Item → Option String
  | .letter => none
  | .named _ => none
  | .attached value => some value
  | .separate value => some value

def option (item : Item) : OptionSpec :=
  match item.switch? with
  | some switch => switch.option
  | none => envOption

/-- An item that can be read: the value of an option is no option itself. -/
def IsSound : Item → Prop
  | .separate value => isPlain value = true
  | _ => True

end Item

theorem Switch.words_named (switch : Switch) :
    (Item.named switch).words = [switch.option.spelling none] := by
  simp [Item.words, OptionSpec.spelling, switch.long_option]

theorem words_attached (value : String) :
    (Item.attached value).words = [envOption.spelling (some value)] := by
  have hName : "--env=" = "--" ++ "env" ++ "=" := by decide
  rw [Item.words, hName, String.append_assoc]
  rfl

theorem words_separate (value : String) :
    (Item.separate value).words = [envOption.spelling none, value] := by
  have hName : "--env" = envOption.spelling none := by decide
  rw [Item.words, hName]

namespace Item

/-- What the first word of an item says. -/
def meaning : Item → Grammar.Meaning
  | .letter => .letters ['q']
  | .named switch => .long switch.option none
  | .attached value => .long envOption (some value)
  | .separate _ => .long envOption none

/-- What the first word of an item means does not depend on what follows. -/
theorem meaning_head (item : Item) (rest : List String) :
    (item.words ++ rest).head?.map (grammar.meaning true) = some item.meaning := by
  cases item with
  | letter => rfl
  | named switch => simp [switch.words_named, switch.meaning_option none, meaning]
  | attached value => simp [words_attached, meaning_envOption, meaning]
  | separate value => simp [words_separate, meaning_envOption, meaning]

/-- An item and what follows it can be told from the words. -/
theorem words_append_inj {first second : Item} {rest more : List String}
    (h : first.words ++ rest = second.words ++ more) : first = second ∧ rest = more := by
  have hMeaning : first.meaning = second.meaning := by
    rw [← Option.some_inj, ← first.meaning_head rest, h, second.meaning_head more]
  have hItem : first = second := by
    cases first <;> cases second <;>
      simp_all [meaning, words, Switch.option_inj, option_ne_envOption,
        Ne.symm (option_ne_envOption _)]
  subst hItem
  exact ⟨rfl, List.append_cancel_left h⟩

end Item

/-- What is on record after one more item. -/
def Item.record (given : List Given) (item : Item) : List Given :=
  Progress.record item.option item.value?.toList given

/-- What is on record after more items. -/
def recordAll (given : List Given) (items : List Item) : List Given :=
  items.foldl Item.record given

variable {given : List Given} {items : List Item} {reading : Reading} {rest : List String}

/-- There are two letters only, and one of them asks for help. -/
theorem findShort?_eq (letter : Char) :
    grammar.findShort? letter =
      if letter = 'q' then some Switch.quiet.option
      else if letter = 'h' then some helpOption else none := by
  by_cases hQuiet : letter = 'q'
  · subst hQuiet
    rfl
  by_cases hHelp : letter = 'h'
  · subst hHelp
    rfl
  simp [Grammar.findShort?, grammar, hQuiet, hHelp, Ne.symm hQuiet, Ne.symm hHelp]

/-- Letters are accepted only if they are the one letter of the quiet switch: a second one would
repeat the switch, and the other letter asks for help. -/
theorem giveLetters_eq_ok_iff {letters : List Char} {after : Progress} (h : letters ≠ []) :
    grammar.giveLetters ⟨given, [], .nothing⟩ letters = .ok after ↔
      letters = ['q'] ∧ Switch.quiet.option ∉ given.map Given.option ∧
        after = ⟨Progress.record Switch.quiet.option [] given, [], .nothing⟩ := by
  have hHelp (given : List Given) (after : Progress) :
      Progress.give ⟨given, [], .nothing⟩ helpOption none ≠ .ok after := nofun
  have hGive (given : List Given) {after : Progress} :
      Progress.give ⟨given, [], .nothing⟩ Switch.quiet.option none = .ok after ↔ _ :=
    Progress.give_switch_eq_ok_iff given [] Switch.quiet.kind_option
  obtain ⟨first, more, rfl⟩ := List.exists_cons_of_ne_nil h
  rw [Grammar.giveLetters, findShort?_eq]
  by_cases hFirst : first = 'q'
  · cases more with
    | nil => simp [hFirst, except_bind_eq_ok_iff, hGive, Grammar.giveLetters, eq_comm (a := after)]
    | cons second more =>
        have hGiven : Switch.quiet.option ∈
            (Progress.record Switch.quiet.option [] given).map Given.option := by
          rw [Progress.options_record, mem_naming]
          exact Or.inr rfl
        have hSecond : grammar.giveLetters
            ⟨Progress.record Switch.quiet.option [] given, [], .nothing⟩ (second :: more) ≠
              .ok after := by
          rw [Grammar.giveLetters, findShort?_eq]
          by_cases hAgain : second = 'q'
          · simp [hAgain, except_bind_eq_ok_iff, hGive, hGiven]
          by_cases hAsk : second = 'h' <;> simp [hAgain, hAsk, except_bind_eq_ok_iff, hHelp]
        simp [hFirst, except_bind_eq_ok_iff, hGive, hSecond]
  · by_cases hAsk : first = 'h' <;> simp [hFirst, hAsk, except_bind_eq_ok_iff, hHelp]

/-- One more item is read if it is sound and turns no switch on for a second time. The invariant is
that nothing waits between items. -/
theorem readFrom_item (item : Item) :
    grammar.readFrom ⟨given, [], .nothing⟩ (item.words ++ rest) = .ok reading ↔
      item.IsSound ∧ (item.switch?.isSome → item.option ∉ given.map Given.option) ∧
        grammar.readFrom ⟨item.record given, [], .nothing⟩ rest = .ok reading := by
  have hFull : grammar.leading.length ≤ ([] : List String).length := Nat.le_refl 0
  cases item with
  | letter =>
      have hMeaning : grammar.meaning true "-q" = .letters ['q'] := by decide
      simp only [Item.words, List.singleton_append, Grammar.readFrom_letters hFull hMeaning,
        giveLetters_eq_ok_iff (List.cons_ne_nil 'q' [])]
      simp [Item.IsSound, Item.switch?, Item.option, Item.value?, Item.record]
  | named switch =>
      simp only [switch.words_named, List.singleton_append,
        Grammar.readFrom_long hFull (switch.meaning_option none),
        Progress.give_switch_eq_ok_iff given [] switch.kind_option]
      simp [Item.IsSound, Item.switch?, Item.option, Item.value?, Item.record]
  | attached value =>
      simp only [words_attached, List.singleton_append,
        Grammar.readFrom_long hFull (meaning_envOption (some value)),
        Progress.give_free given [] kind_envOption value]
      simp [Item.IsSound, Item.switch?, Item.option, Item.value?, Item.record]
  | separate value =>
      simp only [words_separate, List.cons_append, List.nil_append,
        Grammar.readFrom_long hFull (meaning_envOption none),
        Progress.give_value given [] kind_envOption, Except.ok.injEq, exists_eq_left',
        Grammar.readFrom_waiting_eq_ok_iff hFull kind_envOption, List.cons.injEq,
        meaning_eq_word_iff]
      simp [Item.IsSound, Item.switch?, Item.option, Item.value?, Item.record]

/-- What follows the options: the command, possibly after the separator. -/
def ending (separated : Bool) (command : List String) : List String :=
  if separated then "--" :: command else command

/-- Without the separator a command must not begin with a word that would be read as something
else. -/
def CanBegin (separated : Bool) (command : List String) : Prop :=
  separated = false → ∀ first ∈ command.head?, isPlain first = true

theorem canBegin_separated (command : List String) : CanBegin true command :=
  nofun

/-- The command ends the options, with the separator or without it. -/
theorem readFrom_ending {separated : Bool} {command : List String}
    (h : CanBegin separated command) :
    grammar.readFrom ⟨given, [], .nothing⟩ (ending separated command) =
      grammar.finish ⟨given, [], .nothing⟩ command := by
  have hFull : grammar.leading.length ≤ ([] : List String).length := Nat.le_refl 0
  cases separated with
  | true => exact Grammar.readFrom_escape hFull (by decide)
  | false =>
      cases command with
      | nil => rfl
      | cons first rest =>
          exact Grammar.readFrom_word hFull ((meaning_eq_word_iff first).2 (h rfl first rfl))

/-- Where no more items follow, none can be read. -/
theorem ending_ne_words {separated : Bool} {command : List String}
    (h : CanBegin separated command) (item : Item) (rest : List String) :
    ending separated command ≠ item.words ++ rest := by
  intro hEq
  have hHead := item.meaning_head rest
  rw [← hEq] at hHead
  cases separated with
  | true =>
      have hEscape : some Grammar.Meaning.escape = some item.meaning := hHead
      cases item <;> cases hEscape
  | false =>
      cases command with
      | nil => cases hHead
      | cons first more =>
          have hWord : grammar.meaning true first = item.meaning := Option.some.inj hHead
          rw [(meaning_eq_word_iff first).2 (h rfl first rfl)] at hWord
          cases item <;> cases hWord

/-- The separator belongs to the ending and not to the command. -/
theorem ending_inj {separated alsoSeparated : Bool} {command other : List String}
    (h : CanBegin separated command) (hOther : CanBegin alsoSeparated other)
    (hEq : ending separated command = ending alsoSeparated other) :
    separated = alsoSeparated ∧ command = other := by
  have hPlain : isPlain "--" ≠ true := by decide
  cases separated <;> cases alsoSeparated
  · exact ⟨rfl, hEq⟩
  · obtain rfl : command = "--" :: other := hEq
    exact absurd (h rfl "--" rfl) hPlain
  · obtain rfl : "--" :: command = other := hEq
    exact absurd (hOther rfl "--" rfl) hPlain
  · exact ⟨rfl, List.tail_eq_of_cons_eq hEq⟩

/-- A line that is accepted begins with an item, or no more items follow. -/
theorem begins_of_readFrom {line : List String}
    (h : grammar.readFrom ⟨given, [], .nothing⟩ line = .ok reading) :
    (∃ (item : Item) (rest : List String), line = item.words ++ rest) ∨
      ∃ separated command, line = ending separated command ∧ CanBegin separated command := by
  have hFull : grammar.leading.length ≤ ([] : List String).length := Nat.le_refl 0
  cases line with
  | nil => exact Or.inr ⟨false, [], rfl, by simp [CanBegin]⟩
  | cons text rest =>
      cases hMeaning : grammar.meaning true text with
      | escape =>
          obtain rfl := Grammar.eq_of_meaning_eq_escape hMeaning
          exact Or.inr ⟨true, rest, rfl, canBegin_separated rest⟩
      | word =>
          exact Or.inr ⟨false, text :: rest, rfl,
            fun _ first hFirst => (meaning_eq_word_iff first).1 (by simp_all)⟩
      | unknown name => exact absurd hMeaning (Grammar.meaning_ne_unknown text name)
      | letters letters =>
          obtain ⟨after, hAfter, -⟩ := (Grammar.readFrom_letters hFull hMeaning).1 h
          obtain ⟨hLetters, hText⟩ := Grammar.eq_of_meaning_eq_letters hMeaning
          obtain ⟨rfl, -, -⟩ := (giveLetters_eq_ok_iff hLetters).1 hAfter
          exact Or.inl ⟨.letter, rest, by rw [hText]; rfl⟩
      | long option attached =>
          obtain ⟨after, hGive, hRest⟩ := (Grammar.readFrom_long hFull hMeaning).1 h
          obtain ⟨hOption, rfl⟩ := Grammar.eq_spelling_of_meaning hMeaning
          left
          rcases mem_options_iff.1 hOption with ⟨switch, rfl⟩ | rfl | rfl
          · cases attached with
            | none => exact ⟨.named switch, rest, by rw [switch.words_named]; rfl⟩
            | some value => cases switch <;> cases hGive
          · cases attached with
            | none =>
                rw [Progress.give_value given [] kind_envOption, Except.ok.injEq] at hGive
                obtain ⟨value, more, rfl, -⟩ :=
                  (Grammar.readFrom_waiting_eq_ok_iff hFull kind_envOption rest).1 (hGive ▸ hRest)
                exact ⟨.separate value, more, rfl⟩
            | some value => exact ⟨.attached value, rest, by rw [words_attached]; rfl⟩
          · cases attached <;> cases hGive

/-- No item turns a switch on that is on already, also by an earlier item. -/
def Fresh (given : List Given) (items : List Item) : Prop :=
  ∀ switch : Switch, (if switch.option ∈ given.map Given.option then 1 else 0) +
    items.countP (·.switch? == some switch) ≤ 1

theorem fresh_nil (given : List Given) : Fresh given [] := by
  intro switch
  split <;> simp

/-- An item that turns no switch on leaves them as they are. -/
theorem fresh_cons (item : Item) :
    Fresh given (item :: items) ↔
      (item.switch?.isSome → item.option ∉ given.map Given.option) ∧
        Fresh (item.record given) items := by
  have hOptions : (item.record given).map Given.option =
      naming (given.map Given.option) item.option := Progress.options_record _ _ _
  simp only [Fresh, hOptions, mem_naming, List.countP_cons, Item.option]
  cases hSwitch : item.switch? with
  | none => simp [option_ne_envOption]
  | some turned =>
      simp only [Option.isSome_some, forall_const, Switch.option_inj]
      constructor
      · intro h
        have hTurned : turned.option ∉ given.map Given.option := by
          intro hMem
          have hCount := h turned
          simp only [hMem, if_true, beq_self_eq_true] at hCount
          omega
        refine ⟨hTurned, fun switch => ?_⟩
        have hCount := h switch
        by_cases hSame : switch = turned
        · simp only [hSame, hTurned, beq_self_eq_true, or_true, if_true, if_false] at hCount ⊢
          omega
        · simpa [hSame, Ne.symm hSame] using hCount
      · rintro ⟨hTurned, h⟩ switch
        have hCount := h switch
        by_cases hSame : switch = turned
        · simp only [hSame, hTurned, beq_self_eq_true, or_true, if_true, if_false] at hCount ⊢
          omega
        · simpa [hSame, Ne.symm hSame] using hCount

theorem recordAll_cons (item : Item) :
    recordAll given (item :: items) = recordAll (item.record given) items := rfl

/-- Reading goes through the items one after the other and ends after them. -/
theorem readFrom_items {separated : Bool} {command : List String}
    (hEnding : CanBegin separated command) :
    grammar.readFrom ⟨given, [], .nothing⟩ (items.flatMap Item.words ++ ending separated command) =
        .ok reading ↔
      (∀ item ∈ items, item.IsSound) ∧ Fresh given items ∧
        grammar.finish ⟨recordAll given items, [], .nothing⟩ command = .ok reading := by
  induction items generalizing given with
  | nil =>
      rw [List.flatMap_nil, List.nil_append, readFrom_ending hEnding]
      simp [fresh_nil, recordAll]
  | cons item items ih =>
      rw [List.flatMap_cons, List.append_assoc, readFrom_item, ih, fresh_cons, List.forall_mem_cons,
        ← recordAll_cons]
      constructor
      · rintro ⟨hSound, hNew, hSounds, hFresh, hFinish⟩
        exact ⟨⟨hSound, hSounds⟩, ⟨hNew, hFresh⟩, hFinish⟩
      · rintro ⟨⟨hSound, hSounds⟩, ⟨hNew, hFresh⟩, hFinish⟩
        exact ⟨hSound, hNew, hSounds, hFresh, hFinish⟩

theorem Item.length_words_pos (item : Item) : 0 < item.words.length := by
  cases item <;> simp [words]

/-- An accepted line consists of items and what may follow them. -/
theorem exists_items_of_readFrom (given : List Given) (line : List String)
    (h : grammar.readFrom ⟨given, [], .nothing⟩ line = .ok reading) :
    ∃ (items : List Item) (separated : Bool) (command : List String),
      line = items.flatMap Item.words ++ ending separated command ∧
        CanBegin separated command := by
  rcases begins_of_readFrom h with ⟨item, rest, hLine⟩ | ⟨separated, command, hLine, hBegin⟩
  · have hShorter : rest.length < line.length := by
      have hWords := item.length_words_pos
      rw [hLine, List.length_append]
      omega
    have hRest := ((readFrom_item item).1 (hLine ▸ h)).2.2
    obtain ⟨items, separated, command, hEq, hBegin⟩ := exists_items_of_readFrom _ rest hRest
    exact ⟨item :: items, separated, command, by simp [hLine, hEq], hBegin⟩
  · exact ⟨[], separated, command, hLine, hBegin⟩
termination_by line.length

namespace Item

theorem option_mem (item : Item) : item.option ∈ grammar.options := by
  unfold option
  split
  · exact Switch.option_mem _
  · exact envOption_mem

theorem long_option_eq_name_iff (item : Item) (switch : Switch) :
    item.option.long = switch.name ↔ item.switch? = some switch := by
  have hNames {first second : Switch} : first.name = second.name ↔ first = second := by
    cases first <;> cases second <;> decide
  unfold option
  split
  · rename_i turned hTurned
    rw [Switch.long_option, hNames, hTurned, Option.some.injEq]
  · rename_i hNone
    rw [hNone]
    cases switch <;> decide

theorem long_option_of_value? {item : Item} {value : String} (h : item.value? = some value) :
    item.option.long = "env" := by
  cases item <;> first | rfl | cases h

end Item

/-- On record is what was there before, and what the items say. -/
theorem mem_options_recordAll {option : OptionSpec} :
    option ∈ (recordAll given items).map Given.option ↔
      option ∈ given.map Given.option ∨ ∃ item ∈ items, item.option = option :=
  Progress.mem_options_foldl

/-- The variables of a line are those of its items, in order. -/
theorem values_recordAll (h : Recorded grammar given) (items : List Item)
    (leading trailing : List String) :
    (Reading.mk (recordAll given items) leading trailing).values "env" =
      (Reading.mk given leading trailing).values "env" ++ items.filterMap Item.value? := by
  have hNames : (grammar.options.map OptionSpec.long).Nodup := by decide
  have hItem (item : Item) :
      (if item.option.long = "env" then item.value?.toList else []) = item.value?.toList := by
    cases hValue : item.value? with
    | none => simp
    | some value => simp [Item.long_option_of_value? hValue]
  refine (Reading.values_foldl leading trailing hNames Item.option_mem h items "env").trans ?_
  simp only [hItem, List.filterMap_eq_flatMap_toList]

/-- A switch is on if some item turns it on. -/
theorem has_recordAll (items : List Item) (leading trailing : List String) (switch : Switch) :
    (Reading.mk (recordAll [] items) leading trailing).has switch.name =
      items.any (·.switch? == some switch) := by
  rw [Bool.eq_iff_iff, Reading.has_iff, List.any_eq_true]
  constructor
  · rintro ⟨option, hOption, hName⟩
    obtain ⟨item, hItem, rfl⟩ := (mem_options_recordAll.1 hOption).resolve_left (by simp)
    exact ⟨item, hItem, by simpa using (item.long_option_eq_name_iff switch).1 hName⟩
  · rintro ⟨item, hItem, hSwitch⟩
    exact ⟨item.option, mem_options_recordAll.2 (Or.inr ⟨item, hItem, rfl⟩),
      (item.long_option_eq_name_iff switch).2 (by simpa using hSwitch)⟩

/-- The only options that exclude each other are those for and against the shell. -/
theorem excludes_iff {first second : OptionSpec} :
    grammar.excludes first second = true ↔
      (first.long = Switch.shell.name ∧ second.long = Switch.noShell.name) ∨
        (second.long = Switch.shell.name ∧ first.long = Switch.noShell.name) := by
  have hConflicts : grammar.conflicts = [("shell", "no-shell")] := rfl
  simp only [Grammar.excludes, hConflicts, List.any_cons, List.any_nil, Bool.or_false,
    Bool.or_eq_true, beq_iff_eq, Prod.mk.injEq, eq_comm (b := first.long),
    eq_comm (b := second.long), Switch.name]

/-- The two switches about the shell have no letter. -/
theorem Item.switch?_eq_some_iff {item : Item} {switch : Switch} (h : switch ≠ .quiet) :
    item.switch? = some switch ↔ item = .named switch := by
  cases item <;> simp [switch?, Ne.symm h]

/-- Only the two switches about the shell exclude each other. -/
theorem conflict?_recordAll_eq_none_iff (items : List Item) :
    grammar.conflict? ((recordAll [] items).map Given.option) = none ↔
      ¬ (.named .shell ∈ items ∧ .named .noShell ∈ items) := by
  have hMem (switch : Switch) (hQuiet : switch ≠ .quiet) :
      (∃ option ∈ (recordAll [] items).map Given.option, option.long = switch.name) ↔
        .named switch ∈ items := by
    rw [← Reading.has_iff [] [], has_recordAll, List.any_eq_true]
    simp [Item.switch?_eq_some_iff hQuiet]
  rw [Grammar.conflict?_eq_none_iff, ← hMem .shell (by decide), ← hMem .noShell (by decide)]
  constructor
  · rintro h ⟨⟨first, hFirst, hShell⟩, second, hSecond, hNoShell⟩
    have hExcluded := excludes_iff.2 (Or.inl ⟨hShell, hNoShell⟩)
    simp [h first hFirst second hSecond] at hExcluded
  · intro h first hFirst second hSecond
    rw [← Bool.not_eq_true, excludes_iff]
    rintro (⟨hShell, hNoShell⟩ | ⟨hShell, hNoShell⟩)
    · exact h ⟨⟨first, hFirst, hShell⟩, second, hSecond, hNoShell⟩
    · exact h ⟨⟨second, hSecond, hShell⟩, first, hFirst, hNoShell⟩

/-- The command is the only thing that must be there. -/
theorem missing_eq_nil_iff (command : List String) :
    grammar.missing [] command = [] ↔ command ≠ [] := by
  cases command <;> simp [Grammar.missing, grammar]

end ToolGate.ExecArgs
