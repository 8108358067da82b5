import ToolGate.Proofs.Environment.Overlay

/-! Overlays that are merged one after another. What they make of the values is one look-up, from
the upper end of the sequence, and the laws about sequences are read off from that look-up. -/
namespace ToolGate.Environment

/-- The names that have a value. -/
def names (environment : Environment) : List String :=
  environment.toList.map Prod.fst

/-- The value of a name in an overlay. An absent overlay has no values. -/
def valueIn (name : String) (upper : Option Environment) : Option String :=
  (upper.getD empty).get? name

/-- The value of a name that counts among several overlays: that of the last one which has the name.
-/
def lastValue (uppers : List (Option Environment)) (name : String) : Option String :=
  uppers.reverse.findSome? (valueIn name)

/-- The variables after a sequence of overlays, each of them merged onto what the merges before it
made. Without an explicit base the first merge starts from the inherited variables. -/
def mergeAll (inherited : Environment) (base : Option Environment) :
    List (Option Environment) → Environment
  | [] => base.getD inherited
  | upper :: rest => mergeAll inherited (some (inherited.merge base upper)) rest

/-- What overlays in order make of the values before them. The last overlay that has a name counts,
and a name that no overlay has keeps what it had. -/
structure Covers (uppers : List (Option Environment)) (before after : String → Option String) :
    Prop where
  last (below above : List (Option Environment)) {upper : Option Environment} {name value : String}
    (h : uppers = below ++ upper :: above) (hValue : valueIn name upper = some value)
    (hLast : ∀ later ∈ above, valueIn name later = none) : after name = some value
  other {name : String} (h : ∀ upper ∈ uppers, valueIn name upper = none) :
    after name = before name

/-- A way to merge neighbouring overlays among themselves, before they are laid over anything. -/
inductive Grouping where
  | single (upper : Option Environment)
  | joined (first second : Grouping)

namespace Grouping

/-- The overlays of a group in their order. -/
def uppers : Grouping → List (Option Environment)
  | single upper => [upper]
  | joined first second => first.uppers ++ second.uppers

/-- The overlay that a group becomes. Two parts are joined by one merge with the first as its base;
the base is never left out, since that would bring the inherited variables in. -/
def merged (inherited : Environment) : Grouping → Option Environment
  | single upper => upper
  | joined first second =>
    some (inherited.merge (some ((first.merged inherited).getD empty)) (second.merged inherited))

end Grouping

/-- A name is listed if and only if it has a value. -/
theorem mem_names {environment : Environment} {name : String} :
    name ∈ environment.names ↔ environment.get? name ≠ none := by
  rw [names, get?]
  induction environment.toList with
  | nil => simp [Entries.find?]
  | cons entry rest ih =>
      obtain ⟨key, value⟩ := entry
      by_cases h : key = name
      · simp [Entries.find?, h]
      · simp [Entries.find?, h, Ne.symm h, ih]

theorem mem_names_getD {upper : Option Environment} {name : String} :
    name ∈ (upper.getD empty).names ↔ valueIn name upper ≠ none :=
  mem_names

section LastValue

variable {name : String} {uppers : List (Option Environment)}

/-- The values above hide those below. -/
theorem lastValue_append (below above : List (Option Environment)) (name : String) :
    lastValue (below ++ above) name = (lastValue above name).or (lastValue below name) := by
  rw [lastValue, List.reverse_append, List.findSome?_append]
  rfl

theorem lastValue_singleton (upper : Option Environment) (name : String) :
    lastValue [upper] name = valueIn name upper :=
  List.findSome?_singleton

/-- An overlay at the bottom has its say where those above are silent. -/
theorem lastValue_cons (upper : Option Environment) (above : List (Option Environment))
    (name : String) :
    lastValue (upper :: above) name = (lastValue above name).or (valueIn name upper) := by
  rw [← lastValue_singleton upper, ← lastValue_append, List.singleton_append]

/-- A name has no last value if and only if no overlay gives it one. -/
theorem lastValue_eq_none_iff :
    lastValue uppers name = none ↔ ∀ upper ∈ uppers, valueIn name upper = none := by
  simp [lastValue, List.findSome?_eq_none_iff]

/-- A name has a last value if and only if it is among the names of some overlay. -/
theorem lastValue_ne_none_iff :
    lastValue uppers name ≠ none ↔ ∃ upper ∈ uppers, name ∈ (upper.getD empty).names := by
  simp [lastValue_eq_none_iff, mem_names_getD]

/-- Of two neighbours the upper one is asked first. -/
theorem lastValue_pair (below : List (Option Environment)) (first second : Option Environment)
    (above : List (Option Environment)) (name : String) :
    lastValue (below ++ first :: second :: above) name =
      (lastValue above name).or ((valueIn name second).or
        ((valueIn name first).or (lastValue below name))) := by
  rw [lastValue_append, lastValue_cons, lastValue_cons, Option.or_assoc, Option.or_assoc]

end LastValue

section Sequences

variable (inherited : Environment) (base : Option Environment) {uppers : List (Option Environment)}

/-- One merge asks the overlay first, and then the base or what is inherited. -/
theorem get?_merge (upper : Option Environment) (name : String) :
    (inherited.merge base upper).get? name =
      (valueIn name upper).or ((base.getD inherited).get? name) :=
  get?_overlay (base.getD inherited) (upper.getD empty) name

/-- The one look-up to which the laws of sequences come down. -/
theorem get?_mergeAll (uppers : List (Option Environment)) (name : String) :
    (mergeAll inherited base uppers).get? name =
      (lastValue uppers name).or ((base.getD inherited).get? name) := by
  induction uppers generalizing base with
  | nil => rfl
  | cons upper rest ih =>
      rw [mergeAll, ih, Option.getD_some, get?_merge, lastValue_cons, Option.or_assoc]

/-- Overlays count by the last values of names only. -/
theorem mergeAll_congr {others : List (Option Environment)}
    (h : ∀ name, lastValue uppers name = lastValue others name) :
    mergeAll inherited base uppers = mergeAll inherited base others := by
  apply ext_get?
  intro name
  rw [get?_mergeAll, get?_mergeAll, h]

/-- Merging overlays one after the other is the same as looking up the last value of each name. -/
theorem covers_mergeAll (uppers : List (Option Environment)) :
    Covers uppers (base.getD inherited).get? (mergeAll inherited base uppers).get? where
  last := by
    rintro below above upper name value rfl hValue hLast
    rw [get?_mergeAll, lastValue_append, lastValue_cons, lastValue_eq_none_iff.2 hLast, hValue]
    rfl
  other := by
    intro name h
    rw [get?_mergeAll, lastValue_eq_none_iff.2 h, Option.none_or]

/-- No name is lost, and none appears from elsewhere. -/
theorem mem_names_mergeAll {name : String} :
    name ∈ (mergeAll inherited base uppers).names ↔
      name ∈ (base.getD inherited).names ∨ ∃ upper ∈ uppers, name ∈ (upper.getD empty).names := by
  rw [mem_names, mem_names, ← lastValue_ne_none_iff, get?_mergeAll, Ne, Option.or_eq_none_iff,
    Decidable.not_and_iff_or_not, or_comm]

/-- A group gives to each name the last value of its overlays, however these are put together. -/
theorem valueIn_merged (group : Grouping) (name : String) :
    valueIn name (group.merged inherited) = lastValue group.uppers name := by
  induction group with
  | single upper => exact (lastValue_singleton upper name).symm
  | joined first second ihFirst ihSecond =>
      rw [Grouping.uppers, lastValue_append, ← ihFirst, ← ihSecond]
      exact get?_merge inherited _ (second.merged inherited) name

/-- Neighbours that are merged among themselves first come to the same. -/
theorem mergeAll_groups (groups : List Grouping) :
    mergeAll inherited base (groups.map (·.merged inherited)) =
      mergeAll inherited base (groups.flatMap Grouping.uppers) := by
  apply mergeAll_congr
  intro name
  induction groups with
  | nil => rfl
  | cons group rest ih =>
      rw [List.map_cons, List.flatMap_cons, lastValue_cons, lastValue_append, ih, valueIn_merged]

/-- The uppermost overlay can be laid on again without effect. -/
theorem merge_mergeAll_of_getLast? {upper : Option Environment}
    (h : uppers.getLast? = some upper) :
    inherited.merge (some (mergeAll inherited base uppers)) upper =
      mergeAll inherited base uppers := by
  obtain ⟨below, rfl⟩ := List.getLast?_eq_some_iff.1 h
  apply ext_get?
  intro name
  rw [get?_merge, Option.getD_some, get?_mergeAll, lastValue_append, lastValue_singleton]
  cases valueIn name upper <;> rfl

/-- An overlay without a single value can be left out. -/
theorem mergeAll_of_valueless {upper : Option Environment} (h : ∀ name, valueIn name upper = none)
    (below above : List (Option Environment)) :
    mergeAll inherited base (below ++ upper :: above) =
      mergeAll inherited base (below ++ above) := by
  apply mergeAll_congr
  intro name
  rw [lastValue_append, lastValue_append, lastValue_cons, h, Option.or_none]

/-- Two neighbours can change places if and only if each name on which they disagree is given a
value above them. -/
theorem mergeAll_swap_iff (below : List (Option Environment)) (first second : Option Environment)
    (above : List (Option Environment)) :
    mergeAll inherited base (below ++ second :: first :: above) =
        mergeAll inherited base (below ++ first :: second :: above) ↔
      ∀ name x y, valueIn name first = some x → valueIn name second = some y → x ≠ y →
        ∃ upper ∈ above, name ∈ (upper.getD empty).names := by
  constructor
  · intro hSame name x y hFirst hSecond hDiffer
    apply lastValue_ne_none_iff.1
    intro hAbove
    -- with nothing above, the upper one of the two shows
    have hValue := congrArg (·.get? name) hSame
    simp only [get?_mergeAll, lastValue_pair, hAbove, hFirst, hSecond, Option.none_or,
      Option.some_or] at hValue
    exact hDiffer (Option.some.inj hValue)
  · intro hAgree
    apply mergeAll_congr
    intro name
    rw [lastValue_pair, lastValue_pair]
    cases hAbove : lastValue above name with
    | some value => rfl
    | none =>
        cases hFirst : valueIn name first with
        | none => rfl
        | some x =>
            cases hSecond : valueIn name second with
            | none => rfl
            | some y =>
                by_cases hEqual : x = y
                · rw [hEqual]
                · have hSet := hAgree name x y hFirst hSecond hEqual
                  exact absurd hAbove (lastValue_ne_none_iff.2 hSet)

end Sequences

end ToolGate.Environment
