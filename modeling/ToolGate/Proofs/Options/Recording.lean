import Mathlib.Data.List.Nodup
import ToolGate.Options.Reading

/-! The record that a reading keeps of its options. Each option has one entry, in the order in which
the options were first given, and its entry collects its values. -/
namespace ToolGate.Options

variable {grammar : Grammar} {option other : OptionSpec} {given : List Given}

/-- Naming an option adds that option and no other one. -/
theorem mem_naming {options : List OptionSpec} :
    other ∈ naming options option ↔ other ∈ options ∨ other = option := by
  unfold naming
  split
  · rename_i hContains
    refine ⟨Or.inl, fun h => ?_⟩
    rcases h with h | rfl
    · exact h
    · simpa using hContains
  · simp

/-- An option that is named already is not named again. -/
theorem naming_nodup {options : List OptionSpec} (h : options.Nodup) (option : OptionSpec) :
    (naming options option).Nodup := by
  unfold naming
  split
  · exact h
  · rename_i hContains
    have hNew : option ∉ options := by simpa using hContains
    exact List.nodup_append.2 ⟨h, by simp, by rintro a ha b hb rfl; simp_all⟩

/-- Entries of options that the grammar knows, at most one of each. -/
structure Recorded (grammar : Grammar) (given : List Given) : Prop where
  known : ∀ entry ∈ given, entry.option ∈ grammar.options
  once : (given.map Given.option).Nodup

/-- An empty record has no entries that could be wrong. -/
theorem Recorded.nil (grammar : Grammar) : Recorded grammar [] :=
  ⟨by simp, by simp⟩

namespace Progress

/-- Recording an option names it, once. -/
theorem options_record (option : OptionSpec) (values : List String) (given : List Given) :
    (record option values given).map Given.option = naming (given.map Given.option) option := by
  induction given with
  | nil => rfl
  | cons first rest ih =>
      by_cases hFirst : first.option = option
      · simp [record, naming, hFirst]
      · have hOther : (option == first.option) = false := by simpa using Ne.symm hFirst
        rw [record, if_neg hFirst, List.map_cons, ih]
        simp only [naming, List.map_cons, List.contains_cons, hOther, Bool.false_or]
        split <;> rfl

/-- An option is known by its entry on record. -/
theorem has_iff (progress : Progress) :
    progress.has option = true ↔ option ∈ progress.given.map Given.option := by
  simp [has]

end Progress

/-- What is recorded stays well formed: the option is one of the grammar's, and it gets no second
entry. -/
theorem Recorded.record (h : Recorded grammar given) (hOption : option ∈ grammar.options)
    (values : List String) : Recorded grammar (Progress.record option values given) := by
  have hOptions := Progress.options_record option values given
  constructor
  · intro entry hEntry
    have hMem : entry.option ∈ naming (given.map Given.option) option :=
      hOptions ▸ List.mem_map_of_mem hEntry
    rcases mem_naming.1 hMem with hOld | hNew
    · obtain ⟨old, hOld, hEq⟩ := List.mem_map.1 hOld
      exact hEq ▸ h.known old hOld
    · exact hNew ▸ hOption
  · rw [hOptions]
    exact naming_nodup h.once option

namespace Reading

variable (leading trailing : List String)

/-- A reading asks for options by their long names, which stand for them. -/
theorem has_iff {name : String} :
    (Reading.mk given leading trailing).has name = true ↔
      ∃ option ∈ given.map Given.option, option.long = name := by
  simp only [has, List.any_eq_true, beq_iff_eq]
  constructor
  · rintro ⟨entry, hEntry, hName⟩
    exact ⟨entry.option, List.mem_map_of_mem hEntry, hName⟩
  · rintro ⟨option, hOption, hName⟩
    obtain ⟨entry, hEntry, rfl⟩ := List.mem_map.1 hOption
    exact ⟨entry, hEntry, hName⟩

/-- A value belongs to its option and to no other one. -/
theorem values_record (hNames : (grammar.options.map OptionSpec.long).Nodup)
    (h : Recorded grammar given) (hOption : option ∈ grammar.options) (values : List String)
    (name : String) :
    (Reading.mk (Progress.record option values given) leading trailing).values name =
      (Reading.mk given leading trailing).values name ++
        if option.long = name then values else [] := by
  induction given with
  | nil => by_cases hName : option.long = name <;> simp [Reading.values, Progress.record, hName]
  | cons first rest ih =>
      have hRest : Recorded grammar rest :=
        ⟨fun entry hEntry => h.known entry (List.mem_cons_of_mem first hEntry),
          (List.nodup_cons.1 h.once).2⟩
      by_cases hFirst : first.option = option
      · -- No other entry has the option's name, so nothing stands between its values.
        subst hFirst
        have hOthers : ∀ entry ∈ rest, entry.option.long ≠ first.option.long := by
          intro entry hEntry hEq
          have hSame : entry.option = first.option :=
            List.inj_on_of_nodup_map hNames (hRest.known entry hEntry) hOption hEq
          exact (List.nodup_cons.1 h.once).1 (hSame ▸ List.mem_map_of_mem hEntry)
        by_cases hName : first.option.long = name
        · have hNone : rest.filter (fun entry => entry.option.long == name) = [] := by
            simpa [List.filter_eq_nil_iff] using hName ▸ hOthers
          simp [Reading.values, Progress.record, hName, hNone]
        · simp [Reading.values, Progress.record, hName]
      · have hIh := ih hRest
        simp only [Reading.values, Progress.record, hFirst, if_false, List.filter_cons] at hIh ⊢
        split
        · simp [hIh]
        · exact hIh

end Reading

section Items

-- The items of a command line, of any kind, with the option and the values that each of them gives.
variable {Item : Type} {optionOf : Item → OptionSpec} {valuesOf : Item → List String}

/-- After a line of items the options on record are the earlier ones and those of the items. -/
theorem Progress.mem_options_foldl {items : List Item} :
    other ∈ (items.foldl (fun given item => record (optionOf item) (valuesOf item) given) given).map
        Given.option ↔
      other ∈ given.map Given.option ∨ ∃ item ∈ items, optionOf item = other := by
  induction items generalizing given with
  | nil => simp
  | cons item items ih =>
      rw [List.foldl_cons, ih, options_record, mem_naming, or_assoc]
      simp [eq_comm (a := other)]

/-- Values under a name are the values of all items with that name, in order. The invariant is that
no option has two entries. -/
theorem Reading.values_foldl (leading trailing : List String)
    (hNames : (grammar.options.map OptionSpec.long).Nodup)
    (hKnown : ∀ item, optionOf item ∈ grammar.options) (h : Recorded grammar given)
    (items : List Item) (name : String) :
    (Reading.mk (items.foldl
        (fun given item => Progress.record (optionOf item) (valuesOf item) given) given)
        leading trailing).values name =
      (Reading.mk given leading trailing).values name ++
        items.flatMap fun item => if (optionOf item).long = name then valuesOf item else [] := by
  induction items generalizing given with
  | nil => simp
  | cons item items ih =>
      rw [List.foldl_cons, ih (h.record (hKnown item) (valuesOf item)),
        values_record leading trailing hNames h (hKnown item), List.append_assoc,
        List.flatMap_cons]

end Items

end ToolGate.Options
