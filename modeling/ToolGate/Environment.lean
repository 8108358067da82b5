/-!
Environments: finite maps from variable names to values, kept sorted by name. Laying one
environment over another replaces and adds variables but never removes one.

Main statements: `Environment.get?_insert` and `Environment.get?_erase` say what the two changes do
to every look-up, and `Environment.ext_get?` says that look-ups determine an environment.
-/

namespace ToolGate

namespace Entries

/-- The value of a name in a list of entries: that of the first entry with the name. -/
def find? (name : String) : List (String × String) → Option String
  | [] => none
  | (key, value) :: rest => if key = name then some value else find? name rest

/-- Puts an entry into a sorted list at its place; an entry with the same name is replaced. -/
def insert (name value : String) : List (String × String) → List (String × String)
  | [] => [(name, value)]
  | (key, old) :: rest =>
    if name < key then (name, value) :: (key, old) :: rest
    else if name = key then (name, value) :: rest
    else (key, old) :: insert name value rest

/-- Strictly increasing names; in particular no name occurs twice. -/
def Sorted (entries : List (String × String)) : Prop :=
  entries.Pairwise fun a b => a.1 < b.1

theorem mem_insert {name value : String} {entry : String × String}
    {entries : List (String × String)} (h : entry ∈ insert name value entries) :
    entry = (name, value) ∨ entry ∈ entries := by
  induction entries with
  | nil => simpa [insert] using h
  | cons head rest ih =>
    obtain ⟨key, old⟩ := head
    rw [insert] at h
    split at h
    · simpa using h
    · split at h
      · rcases List.mem_cons.1 h with h | h
        · exact Or.inl h
        · exact Or.inr (List.mem_cons_of_mem _ h)
      · rcases List.mem_cons.1 h with h | h
        · exact Or.inr (h ▸ List.mem_cons_self)
        · rcases ih h with h | h
          · exact Or.inl h
          · exact Or.inr (List.mem_cons_of_mem _ h)

/-- The place of a new entry is found by comparing names, so the order and with it the uniqueness of
the names survive. -/
theorem Sorted.insert {entries : List (String × String)} (h : Sorted entries)
    (name value : String) : Sorted (insert name value entries) := by
  induction entries with
  | nil => simp [Entries.insert, Sorted]
  | cons head rest ih =>
    obtain ⟨key, old⟩ := head
    have hParts := List.pairwise_cons.1 h
    rw [Entries.insert]
    split
    · rename_i hLt
      refine List.pairwise_cons.2 ⟨?_, h⟩
      intro entry hEntry
      rcases List.mem_cons.1 hEntry with rfl | hEntry
      · exact hLt
      · exact String.lt_trans hLt (hParts.1 entry hEntry)
    · split
      · rename_i hEq
        exact List.pairwise_cons.2 ⟨fun entry hEntry => hEq ▸ hParts.1 entry hEntry, hParts.2⟩
      · rename_i hNotLt hNe
        refine List.pairwise_cons.2 ⟨?_, ih hParts.2⟩
        intro entry hEntry
        rcases mem_insert hEntry with rfl | hEntry
        · exact Std.lt_of_le_of_ne (String.not_lt.1 hNotLt) (Ne.symm hNe)
        · exact hParts.1 entry hEntry

/-- Setting one name is noticed under that name only. -/
theorem find?_insert (name value wanted : String) (entries : List (String × String)) :
    find? wanted (insert name value entries) =
      if name = wanted then some value else find? wanted entries := by
  induction entries with
  | nil => rfl
  | cons head rest ih =>
    obtain ⟨key, old⟩ := head
    rw [insert]
    split
    · rfl
    · split
      · rename_i hEq
        subst hEq
        by_cases h : name = wanted <;> simp [find?, h]
      · rename_i hNe
        by_cases h : key = wanted
        · have hName : name ≠ wanted := fun he => hNe (he.trans h.symm)
          simp [find?, h, hName]
        · simp [find?, h, ih]

/-- In a sorted list the search can stop at the first greater name. -/
theorem find?_eq_none_of_lt {name : String} {entries : List (String × String)}
    (h : ∀ entry ∈ entries, name < entry.1) : find? name entries = none := by
  induction entries with
  | nil => rfl
  | cons head rest ih =>
    obtain ⟨key, old⟩ := head
    have hKey : key ≠ name := fun he => by
      have := h (key, old) List.mem_cons_self
      exact String.lt_irrefl name (he ▸ this)
    simp [find?, hKey, ih fun entry hEntry => h entry (List.mem_cons_of_mem _ hEntry)]

theorem find?_filter_ne (name wanted : String) (entries : List (String × String)) :
    find? wanted (entries.filter fun entry => entry.1 ≠ name) =
      if name = wanted then none else find? wanted entries := by
  induction entries with
  | nil => simp [find?]
  | cons head rest ih =>
    obtain ⟨key, old⟩ := head
    by_cases hKey : key = name
    · subst hKey
      by_cases h : key = wanted <;> simp_all [find?]
    · by_cases h : key = wanted
      · have hName : name ≠ wanted := fun he => hKey (h.trans he.symm)
        simp_all [find?]
      · simp_all [find?]

/-- A sorted list that answers like another for the other's first name does not begin above it. -/
theorem not_lt_of_find?_eq {key value key' value' : String} {rest rest' : List (String × String)}
    (hSorted : Sorted ((key, value) :: rest))
    (h : find? key' ((key, value) :: rest) = find? key' ((key', value') :: rest')) :
    ¬ key' < key := by
  intro hLt
  have hNone : find? key' ((key, value) :: rest) = none := by
    apply find?_eq_none_of_lt
    intro entry hEntry
    rcases List.mem_cons.1 hEntry with rfl | hEntry
    · exact hLt
    · exact String.lt_trans hLt ((List.pairwise_cons.1 hSorted).1 entry hEntry)
  rw [hNone] at h
  simp [find?] at h

/-- Two sorted lists with the same look-ups are the same list. -/
theorem Sorted.ext {a b : List (String × String)} (ha : Sorted a) (hb : Sorted b)
    (h : ∀ name, find? name a = find? name b) : a = b := by
  induction a generalizing b with
  | nil =>
    cases b with
    | nil => rfl
    | cons head rest => simpa [find?] using h head.1
  | cons head rest ih =>
    cases b with
    | nil => simpa [find?] using h head.1
    | cons head' rest' =>
      obtain ⟨key, value⟩ := head
      obtain ⟨key', value'⟩ := head'
      have hRest := List.pairwise_cons.1 ha
      have hRest' := List.pairwise_cons.1 hb
      have hKey : key = key' :=
        String.le_antisymm
          (String.not_lt.1 (not_lt_of_find?_eq ha (h key')))
          (String.not_lt.1 (not_lt_of_find?_eq hb (h key).symm))
      subst hKey
      have hValue : value = value' := by simpa [find?] using h key
      subst hValue
      have hTail : rest = rest' := by
        apply ih hRest.2 hRest'.2
        intro name
        by_cases hName : key = name
        · subst hName
          rw [find?_eq_none_of_lt hRest.1, find?_eq_none_of_lt hRest'.1]
        · simpa [find?, hName] using h name
      rw [hTail]

end Entries

/-- The variables that a process is given. Names are unique and sorted, so two environments with
the same variables are equal. -/
@[ext]
structure Environment where
  toList : List (String × String)
  sorted : Entries.Sorted toList
  deriving DecidableEq

namespace Environment

def empty : Environment := ⟨[], List.Pairwise.nil⟩

instance : Inhabited Environment := ⟨empty⟩

def get? (environment : Environment) (name : String) : Option String :=
  Entries.find? name environment.toList

def size (environment : Environment) : Nat :=
  environment.toList.length

def insert (environment : Environment) (name value : String) : Environment :=
  ⟨Entries.insert name value environment.toList, environment.sorted.insert name value⟩

def erase (environment : Environment) (name : String) : Environment :=
  ⟨environment.toList.filter fun entry => entry.1 ≠ name, environment.sorted.filter _⟩

/-- Sets every variable of a list, in its order, so that of two pairs with one name the later
wins. -/
def insertAll (environment : Environment) (pairs : List (String × String)) : Environment :=
  pairs.foldl (fun current pair => current.insert pair.1 pair.2) environment

def ofList (pairs : List (String × String)) : Environment :=
  empty.insertAll pairs

/-- Lays one environment over another. A variable that the overlay lacks keeps its value. -/
def overlay (base upper : Environment) : Environment :=
  base.insertAll upper.toList

/-- The environment of a child: an explicit base or else the inherited variables, with an
optional overlay. -/
def merge (inherited : Environment) (base upper : Option Environment) : Environment :=
  (base.getD inherited).overlay (upper.getD empty)

@[simp]
theorem get?_empty (name : String) : empty.get? name = none := rfl

@[simp]
theorem get?_insert (environment : Environment) (name value wanted : String) :
    (environment.insert name value).get? wanted =
      if name = wanted then some value else environment.get? wanted :=
  Entries.find?_insert name value wanted environment.toList

@[simp]
theorem get?_erase (environment : Environment) (name wanted : String) :
    (environment.erase name).get? wanted =
      if name = wanted then none else environment.get? wanted :=
  Entries.find?_filter_ne name wanted environment.toList

/-- Look-ups determine an environment. -/
theorem ext_get? {a b : Environment} (h : ∀ name, a.get? name = b.get? name) : a = b :=
  Environment.ext (a.sorted.ext b.sorted h)

end Environment

end ToolGate
