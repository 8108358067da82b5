import ToolGate.Proofs.Environment.Layers

/-! Merges of maps that are shared by reference. Each merge copies its base to a new place and then
sets the entries of the overlay in the copy, so that the maps that were there before stay as they
are, and the order in which the entries come does not show in the copy. -/
namespace ToolGate.Environment

/-- The maps in memory. A reference to a map is its place in the list; a new map goes to the end. -/
abbrev Maps := List Environment

namespace Maps

variable (maps : Maps)

/-- The map that a reference stands for. The reference may be absent. -/
def read (reference : Option Nat) : Option Environment :=
  reference.bind (maps[·]?)

/-- Whether a reference, unless it is absent, is the place of a map. -/
def Holds (reference : Option Nat) : Prop :=
  ∀ place ∈ reference, place < maps.length

instance (reference : Option Nat) : Decidable (maps.Holds reference) :=
  inferInstanceAs (Decidable (∀ place ∈ reference, place < maps.length))

/-- Sets a variable of the map at a place. -/
def assign (place : Nat) (entry : String × String) : Maps :=
  maps.modify place (·.insert entry.1 entry.2)

/-- One merge: a copy of the base, or of the inherited variables where there is none, goes to a new
place, and the entries are set there one by one. -/
def mergeCopy (inherited : Environment) (base : Option Nat) (entries : List (String × String)) :
    Maps :=
  entries.foldl (fun extended entry => assign extended maps.length entry)
    (maps ++ [(maps.read base).getD inherited])

/-- New maps come at the end, so references to the old ones still lead to what they led to. -/
theorem read_append_of_holds {reference : Option Nat} (h : maps.Holds reference) (made : Maps) :
    read (maps ++ made) reference = maps.read reference := by
  cases reference with
  | none => rfl
  | some place => exact List.getElem?_append_left (h place rfl)

/-- The copy takes the setting, and the map that it was copied from does not. -/
theorem assign_append_length (current : Environment) (entry : String × String) :
    assign (maps ++ [current]) maps.length entry = maps ++ [current.insert entry.1 entry.2] :=
  List.modifyTailIdx_add _ 0 maps [current]

/-- A loop of settings changes the copy only. -/
theorem foldl_assign_append_length (current : Environment) (entries : List (String × String)) :
    entries.foldl (fun extended entry => assign extended maps.length entry) (maps ++ [current]) =
      maps ++ [current.insertAll entries] := by
  induction entries generalizing current with
  | nil => rfl
  | cons entry rest ih => rw [List.foldl_cons, assign_append_length, ih, insertAll_cons]

/-- One merge makes one map and leaves the others alone, in whatever order the overlay yields its
entries. -/
theorem mergeCopy_eq (inherited : Environment) (base upper : Option Nat)
    {entries : List (String × String)}
    (h : entries.Perm ((maps.read upper).getD empty).toList) :
    maps.mergeCopy inherited base entries =
      maps ++ [inherited.merge (maps.read base) (maps.read upper)] := by
  rw [mergeCopy, foldl_assign_append_length, insertAll_of_perm _ _ h]
  rfl

end Maps

/-- A sequence of merges in memory. Every overlay yields its entries in some order, each merge takes
the map that the one before it made as its base, and the last map made is the result. -/
inductive Merging (inherited : Environment) :
    Maps → Option Nat → List (Option Nat) → Maps → Option Nat → Prop where
  | done (maps : Maps) (current : Option Nat) : Merging inherited maps current [] maps current
  | next {maps final : Maps} {current upper result : Option Nat} {rest : List (Option Nat)}
      {entries : List (String × String)}
      (order : entries.Perm ((maps.read upper).getD empty).toList)
      (tail : Merging inherited (maps.mergeCopy inherited current entries) (some maps.length) rest
        final result) :
      Merging inherited maps current (upper :: rest) final result

namespace Merging

variable {inherited : Environment}

/-- Merging never gets stuck, so what is said about its runs is said about something. -/
theorem exists_run (maps : Maps) (current : Option Nat) (uppers : List (Option Nat)) :
    ∃ final result, Merging inherited maps current uppers final result := by
  induction uppers generalizing maps current with
  | nil => exact ⟨maps, current, .done maps current⟩
  | cons upper rest ih =>
      obtain ⟨final, result, tail⟩ := ih
        (maps.mergeCopy inherited current ((maps.read upper).getD empty).toList) (some maps.length)
      exact ⟨final, result, .next (.refl _) tail⟩

/-- The maps of the start are a prefix of the maps at the end, and the result is what the merges of
the maps referred to give. -/
theorem outcome {maps final : Maps} {base result : Option Nat} {uppers : List (Option Nat)}
    (run : Merging inherited maps base uppers final result)
    (hHolds : ∀ upper ∈ uppers, maps.Holds upper) :
    maps <+: final ∧ (final.read result).getD inherited =
      mergeAll inherited (maps.read base) (uppers.map maps.read) := by
  induction run with
  | done => exact ⟨List.prefix_refl _, rfl⟩
  | @next maps final current upper result rest entries order tail ih =>
      rw [List.forall_mem_cons] at hHolds
      rw [maps.mergeCopy_eq inherited current upper order] at ih
      let made := inherited.merge (maps.read current) (maps.read upper)
      -- the overlays still to come were there before the new map, so they read the same
      have hRest : rest.map (Maps.read (maps ++ [made])) = rest.map maps.read :=
        List.map_congr_left fun other hOther =>
          maps.read_append_of_holds (hHolds.2 other hOther) [made]
      have hMade : Maps.read (maps ++ [made]) (some maps.length) = some made := by
        simp [Maps.read]
      obtain ⟨hPrefix, hResult⟩ := ih fun other hOther place hPlace => by
        have := hHolds.2 other hOther place hPlace
        rw [List.length_append]
        omega
      rw [hRest, hMade] at hResult
      exact ⟨(List.prefix_append maps [made]).trans hPrefix, hResult⟩

end Merging

/-- The laws of overlays that are merged one after another onto a base. Each name has the value of
the last overlay that has it, and else the value of the base; no name is lost and none is added.
Neighbours can be merged among themselves first, the last overlay can be merged again, and an
overlay that is absent or empty can be left out. Two neighbours can change places if and only if
each name to which they give different values is in an overlay above them. On shared maps there is
such a sequence of merges from every start, and whatever the order of entries, it leaves the maps of
the start as they were. -/
theorem mergeAll_layers (inherited : Environment) (base : Option Environment)
    (uppers : List (Option Environment)) :
    let merged := mergeAll inherited base uppers
    Covers uppers (base.getD inherited).get? merged.get? ∧
    (∀ name, name ∈ merged.names ↔
      name ∈ (base.getD inherited).names ∨ ∃ upper ∈ uppers, name ∈ (upper.getD empty).names) ∧
    (∀ groups : List Grouping, groups.flatMap Grouping.uppers = uppers →
      mergeAll inherited base (groups.map (·.merged inherited)) = merged) ∧
    (∀ upper, uppers.getLast? = some upper → inherited.merge (some merged) upper = merged) ∧
    (∀ below upper above, uppers = below ++ upper :: above → upper = none ∨ upper = some empty →
      mergeAll inherited base (below ++ above) = merged) ∧
    (∀ below first second above, uppers = below ++ first :: second :: above →
      (mergeAll inherited base (below ++ second :: first :: above) = merged ↔
        ∀ name x y, valueIn name first = some x → valueIn name second = some y → x ≠ y →
          ∃ upper ∈ above, name ∈ (upper.getD empty).names)) ∧
    ∀ (maps : Maps) (baseAt : Option Nat) (uppersAt : List (Option Nat)),
      (∀ reference ∈ baseAt :: uppersAt, maps.Holds reference) →
      maps.read baseAt = base → uppersAt.map maps.read = uppers →
      (∃ final result, Merging inherited maps baseAt uppersAt final result) ∧
      ∀ final result, Merging inherited maps baseAt uppersAt final result →
        maps <+: final ∧ (final.read result).getD inherited = merged := by
  intro merged
  refine ⟨covers_mergeAll inherited base uppers, fun name => mem_names_mergeAll inherited base,
    ?_, fun upper => merge_mergeAll_of_getLast? inherited base, ?_, ?_, ?_⟩
  · intro groups hGroups
    rw [mergeAll_groups, hGroups]
  · intro below upper above hUppers hNothing
    have hValueless : ∀ name, valueIn name upper = none := by
      intro name
      rcases hNothing with rfl | rfl <;> rfl
    simp only [merged, hUppers, mergeAll_of_valueless inherited base hValueless below above]
  · intro below first second above hUppers
    simp only [merged, hUppers]
    exact mergeAll_swap_iff inherited base below first second above
  · rintro maps baseAt uppersAt hHolds rfl rfl
    refine ⟨Merging.exists_run maps baseAt uppersAt, fun final result run => ?_⟩
    exact run.outcome fun upper hUpper => hHolds upper (List.mem_cons_of_mem _ hUpper)

/-- Three overlays and an absent one. The lower two disagree on a name that the top one has as well,
so they can change places; by themselves they cannot. -/
theorem mergeAll_layers_shadowed :
    let inherited : Environment := .ofList [("HOME", "/h")]
    let base : Environment := .ofList [("A", "0"), ("PATH", "/bin")]
    let low : Environment := .ofList [("A", "1"), ("B", "x")]
    let middle : Environment := .ofList [("A", "2"), ("C", "")]
    let top : Environment := .ofList [("A", "3")]
    let merged := mergeAll inherited (some base) [some low, some middle, none, some top]
    let maps : Maps := [base, low, middle, top]
    (merged.get? "A" = some "3" ∧ merged.get? "C" = some "" ∧ merged.get? "HOME" = none) ∧
    "PATH" ∈ merged.names ∧
    mergeAll inherited (some base)
      [some low, (Grouping.joined (.single (some middle)) (.joined (.single none)
        (.single (some top)))).merged inherited] = merged ∧
    inherited.merge (some merged) (some top) = merged ∧
    mergeAll inherited (some base) [some low, some middle, some top] = merged ∧
    mergeAll inherited (some base) [some middle, some low, none, some top] = merged ∧
    mergeAll inherited (some base) [some middle, some low] ≠
      mergeAll inherited (some base) [some low, some middle] ∧
    ∃ final result,
      Merging inherited maps (some 0) [some 1, some 2, none, some 3] final result ∧
      maps <+: final ∧ (final.read result).getD inherited = merged := by
  intro inherited base low middle top merged maps
  obtain ⟨hCovers, hNames, hGroups, hAgain, hAbsent, hSwap, hShared⟩ :=
    mergeAll_layers inherited (some base) [some low, some middle, none, some top]
  obtain ⟨-, -, -, -, -, hSwapAlone, -⟩ :=
    mergeAll_layers inherited (some base) [some low, some middle]
  obtain ⟨⟨final, result, run⟩, hRuns⟩ :=
    hShared maps (some 0) [some 1, some 2, none, some 3] (by decide) rfl rfl
  refine ⟨⟨?_, ?_, ?_⟩, ?_, ?_, ?_, ?_, ?_, ?_, final, result, run, hRuns final result run⟩
  · exact hCovers.last [some low, some middle, none] [] rfl rfl (by decide)
  · exact hCovers.last [some low] [none, some top] rfl rfl (by decide)
  · exact (hCovers.other (by decide)).trans rfl
  · exact (hNames "PATH").2 (.inl (by decide))
  · exact hGroups [.single (some low), .joined (.single (some middle)) (.joined (.single none)
      (.single (some top)))] rfl
  · exact hAgain (some top) rfl
  · exact hAbsent [some low, some middle] none [some top] rfl (.inl rfl)
  · refine (hSwap [] (some low) (some middle) [none, some top] rfl).2 ?_
    intro name x y hLow hMiddle _
    have hLowName : name ∈ ["A", "B"] := mem_names.2 (hLow ▸ Option.some_ne_none x)
    have hMiddleName : name ∈ ["A", "C"] := mem_names.2 (hMiddle ▸ Option.some_ne_none y)
    have hName : name = "A" := by grind
    exact ⟨some top, by simp, hName ▸ (by decide)⟩
  · intro hSame
    have hAlone := (hSwapAlone [] (some low) (some middle) [] rfl).1 hSame "A" "1" "2" rfl rfl
      (by decide)
    simp at hAlone

end ToolGate.Environment
