import ToolGate.Environment

/-! What becomes of the variables when several are set one after the other, and when one environment
is laid over another. In both cases everything is said by look-ups. -/
namespace ToolGate

theorem Entries.Sorted.find?_of_mem {entries : List (String × String)} (h : Sorted entries)
    {entry : String × String} (hMem : entry ∈ entries) : find? entry.1 entries = some entry.2 := by
  induction entries with
  | nil => cases hMem
  | cons head rest ih =>
      have hParts := List.pairwise_cons.1 h
      rcases List.mem_cons.1 hMem with rfl | hRest
      · simp [find?]
      · have hName : head.1 ≠ entry.1 := fun hName =>
          String.lt_irrefl _ (hName ▸ hParts.1 entry hRest)
        simp [find?, hName, ih hParts.2 hRest]

namespace Environment

/-- What settings in order make of the values before them. The last setting of a name counts, and a
name that is not set keeps what it had. -/
structure Settles (settings : List (String × String)) (before after : String → Option String) :
    Prop where
  last (earlier later : List (String × String)) {name value : String}
    (h : settings = earlier ++ (name, value) :: later)
    (hLast : ∀ setting ∈ later, setting.1 ≠ name) : after name = some value
  other {name : String} (h : ∀ setting ∈ settings, setting.1 ≠ name) : after name = before name

variable (environment : Environment) {settings : List (String × String)} {name : String}

theorem insertAll_cons (setting : String × String) (rest : List (String × String)) :
    environment.insertAll (setting :: rest) =
      (environment.insert setting.1 setting.2).insertAll rest := rfl

theorem insertAll_append (first second : List (String × String)) :
    environment.insertAll (first ++ second) = (environment.insertAll first).insertAll second :=
  List.foldl_append

theorem get?_insertAll_of_forall_ne (h : ∀ setting ∈ settings, setting.1 ≠ name) :
    (environment.insertAll settings).get? name = environment.get? name := by
  induction settings generalizing environment with
  | nil => rfl
  | cons setting rest ih =>
      rw [List.forall_mem_cons] at h
      rw [insertAll_cons, ih _ h.2, get?_insert, if_neg h.1]

/-- After some settings a variable has the value of the last one that names it. -/
theorem settles_insertAll (settings : List (String × String)) :
    Settles settings environment.get? (environment.insertAll settings).get? where
  last := by
    rintro earlier later name value rfl hLast
    rw [insertAll_append, insertAll_cons, get?_insertAll_of_forall_ne _ hLast, get?_insert,
      if_pos rfl]
  other h := environment.get?_insertAll_of_forall_ne h

/-- Sorted entries are set in any order: each name is set once. -/
theorem get?_insertAll_of_sorted {entries : List (String × String)} (h : Entries.Sorted entries)
    (name : String) : (environment.insertAll entries).get? name =
      (Entries.find? name entries).or (environment.get? name) := by
  induction entries generalizing environment with
  | nil => rfl
  | cons entry rest ih =>
      obtain ⟨key, value⟩ := entry
      have hParts := List.pairwise_cons.1 h
      rw [insertAll_cons, ih _ hParts.2, get?_insert, Entries.find?]
      by_cases hKey : key = name
      · subst hKey
        simp [Entries.find?_eq_none_of_lt hParts.1]
      · simp [hKey]

/-- A variable has the value of the overlay, if it has one there. -/
theorem get?_overlay (base upper : Environment) (name : String) :
    (base.overlay upper).get? name = (upper.get? name).or (base.get? name) :=
  base.get?_insertAll_of_sorted upper.sorted name

/-- Settings of different names can be made in either order. -/
theorem insert_comm {other : String} (h : name ≠ other) (value otherValue : String) :
    (environment.insert name value).insert other otherValue =
      (environment.insert other otherValue).insert name value := by
  apply ext_get?
  intro wanted
  simp only [get?_insert]
  by_cases hOther : other = wanted
  · have hName : name ≠ wanted := fun hName => h (hName.trans hOther.symm)
    rw [if_pos hOther, if_neg hName, if_pos hOther]
  · rw [if_neg hOther, if_neg hOther]

/-- The entries of an overlay can be set in any order: no two of them have one name. -/
theorem insertAll_of_perm (base upper : Environment) {entries : List (String × String)}
    (h : entries.Perm upper.toList) : base.insertAll entries = base.overlay upper := by
  refine h.foldl_eq' ?_ base
  intro first hFirst second hSecond current
  by_cases hName : first.1 = second.1
  · have hValue := upper.sorted.find?_of_mem (h.mem_iff.1 hFirst)
    rw [hName, upper.sorted.find?_of_mem (h.mem_iff.1 hSecond)] at hValue
    rw [Prod.ext hName (Option.some.inj hValue).symm]
  · exact current.insert_comm hName first.2 second.2

/-- Laid over an environment, the environment of some settings is as good as the settings. -/
theorem settles_overlay_ofList (base : Environment) (settings : List (String × String)) :
    Settles settings base.get? (base.overlay (ofList settings)).get? where
  last earlier later _ _ h hLast := by
    rw [get?_overlay, ofList, (empty.settles_insertAll settings).last earlier later h hLast,
      Option.some_or]
  other h := by
    rw [get?_overlay, ofList, (empty.settles_insertAll settings).other h, get?_empty,
      Option.none_or]

end Environment

end ToolGate
