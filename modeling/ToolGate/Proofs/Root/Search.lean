import ToolGate.Proofs.Root.Ancestors
import ToolGate.Proofs.Root.Sources

/-! The search for a root. It goes up the ancestors of a path and stops at the first one that holds
a manifest; whether that directory has a canonical path is asked afterwards and changes nothing in
the choice. -/
namespace ToolGate

/-- The first directory of a chain that holds a manifest. -/
def FileView.IsNearest (files : FileView) (chain : List String) (nearest : String) : Prop :=
  files.isFile (Path.join nearest manifestName) = true ∧
    ∃ before after, chain = before ++ nearest :: after ∧
      ∀ nearer ∈ before, files.isFile (Path.join nearer manifestName) = false

variable {files : FileView} {start : String}

/-- The nearest directory is the first one that a search finds. -/
theorem FileView.isNearest_iff {chain : List String} {nearest : String} :
    files.IsNearest chain nearest ↔
      chain.find? (fun directory => files.isFile (Path.join directory manifestName)) =
        some nearest := by
  simp [IsNearest, List.find?_eq_some_iff_append]

/-- The search ends at the nearest directory, whose canonical path decides. -/
theorem findRoot_of_isNearest {nearest : String}
    (h : files.IsNearest (Path.ancestors start) nearest) :
    findRoot files start = canonicalRoot files nearest := by
  rw [findRoot, FileView.isNearest_iff.1 h]

/-- Without a manifest the error names the start of the search. -/
theorem findRoot_of_forall_isFile_eq_false
    (h : ∀ directory ∈ Path.ancestors start,
      files.isFile (Path.join directory manifestName) = false) :
    findRoot files start = .error (.rootNotFound start) := by
  have hNone : (Path.ancestors start).find?
      (fun directory => files.isFile (Path.join directory manifestName)) = none := by
    simpa [List.find?_eq_none] using h
  rw [findRoot, hNone]

/-- A chain has a nearest directory unless it has no manifest at all. -/
theorem forall_isFile_eq_false_or_isNearest (files : FileView) (chain : List String) :
    (∀ directory ∈ chain, files.isFile (Path.join directory manifestName) = false) ∨
      ∃ nearest, files.IsNearest chain nearest := by
  cases hFound : chain.find? fun directory => files.isFile (Path.join directory manifestName) with
  | none => exact Or.inl (by simpa [List.find?_eq_none] using hFound)
  | some nearest => exact Or.inr ⟨nearest, FileView.isNearest_iff.2 hFound⟩

/-- A directory without a canonical path is a failure of its own. -/
theorem canonicalRoot_ne_rootNotFound (files : FileView) (path named : String) :
    canonicalRoot files path ≠ .error (.rootNotFound named) := by
  rw [canonicalRoot]
  cases files.realPath path <;> simp

/-- The path of a manifest leads into its directory. -/
theorem Path.resolve_join_manifestName (base : Location) (directory : String) :
    resolve base (join directory manifestName).toList =
      resolve base directory.toList ++ [manifestName.toList] := by
  rw [resolve_join]
  rfl

/-- For a relative start the search gets to the empty path if no ancestor before that one holds a
manifest. -/
theorem isNearest_empty (hRelative : Path.isAbsolute start.toList = false)
    (hNearer : ∀ nearer ∈ (Path.ancestors start).dropLast,
      files.isFile (Path.join nearer manifestName) = false)
    (hManifest : files.isFile manifestName = true) :
    files.IsNearest (Path.ancestors start) "" := by
  have hLast := Path.getLast?_ancestors_of_not_isAbsolute start hRelative
  exact ⟨hManifest, (Path.ancestors start).dropLast, [],
    (List.dropLast_append_getLast? "" hLast).symm, hNearer⟩

/-- The search ends at the nearest directory with a manifest. The ancestors of a path begin with the
path itself, each of them is the one before it without its last component, and they end at the root
or else at the empty path. If none of them holds a manifest, the error names the start. Otherwise
the nearest one that does is the answer, by its canonical path; if it has none, that is the error,
and the search does not go on. The empty path stands for the directory of the process. It has no
canonical path, so a manifest that is found there is of no use. -/
theorem findRoot_nearest (files : FileView) (start : String) :
    let chain := Path.ancestors start
    let holds (directory : String) := files.isFile (Path.join directory manifestName)
    (chain.head? = some start ∧
      (chain.IsChain fun directory parent => ∃ component,
        Path.components directory.toList = Path.components parent.toList ++ [component]) ∧
      (Path.isAbsolute start.toList = true → ∃ root, chain.getLast? = some root ∧
        Path.components root.toList = [['/']] ∧ (root = start ∨ root = "/")) ∧
      (Path.isAbsolute start.toList = false → chain.getLast? = some "")) ∧
    (∀ process, Path.resolve process "".toList = process ∧
      ∀ directory, Path.resolve process (Path.join directory manifestName).toList =
        Path.resolve process directory.toList ++ [manifestName.toList]) ∧
    (∀ named, findRoot files start = .error (.rootNotFound named) ↔
      named = start ∧ ∀ directory ∈ chain, holds directory = false) ∧
    ((∀ directory ∈ chain, holds directory = false) ∨ ∃ nearest, files.IsNearest chain nearest) ∧
    (∀ nearest, files.IsNearest chain nearest →
      findRoot files start = canonicalRoot files nearest ∧
      (∀ root, files.realPath nearest = .ok root → findRoot files start = .ok root) ∧
      ∀ cause, files.realPath nearest = .error cause →
        findRoot files start = .error (.rootInvalid nearest cause)) ∧
    (Path.isAbsolute start.toList = false →
      (∀ nearer ∈ chain.dropLast, holds nearer = false) → files.isFile manifestName = true →
      files.realPath "" = .error .notFound →
      findRoot files start = .error (.rootInvalid "" .notFound)) := by
  intro chain holds
  refine ⟨⟨rfl, Path.isChain_ancestors start, Path.getLast?_ancestors_of_isAbsolute start,
    Path.getLast?_ancestors_of_not_isAbsolute start⟩,
    fun process => ⟨rfl, Path.resolve_join_manifestName process⟩, ?_,
    forall_isFile_eq_false_or_isNearest files chain, ?_, ?_⟩
  · intro named
    constructor
    · intro hError
      rcases forall_isFile_eq_false_or_isNearest files chain with hNone | ⟨nearest, hNearest⟩
      · rw [findRoot_of_forall_isFile_eq_false hNone] at hError
        exact ⟨(PathError.rootNotFound.inj (Except.error.inj hError)).symm, hNone⟩
      · rw [findRoot_of_isNearest hNearest] at hError
        exact absurd hError (canonicalRoot_ne_rootNotFound files nearest named)
    · rintro ⟨rfl, hNone⟩
      exact findRoot_of_forall_isFile_eq_false hNone
  · intro nearest hNearest
    rw [findRoot_of_isNearest hNearest, canonicalRoot]
    refine ⟨rfl, fun root hPath => ?_, fun cause hPath => ?_⟩
    · rw [hPath]
      rfl
    · rw [hPath]
      rfl
  · intro hRelative hNearer hManifest hEmpty
    rw [findRoot_of_isNearest (isNearest_empty hRelative hNearer hManifest), canonicalRoot, hEmpty]
    rfl

/-- Manifests in a directory, in the one above it and in the directory of the process. -/
def stackedProjects : FileView where
  isFile path := ["/Cargo.toml", "/w/Cargo.toml", "Cargo.toml"].contains path
  realPath path := if path = "" then .error .notFound else .ok path

/-- The farther manifest is not chosen, and the one beside the process is found and refused. -/
theorem findRoot_nearest_stackedProjects :
    Path.ancestors "/w/src/../deep/" = ["/w/src/../deep/", "/w/src/..", "/w/src", "/w", "/"] ∧
    stackedProjects.IsNearest (Path.ancestors "/w/src/../deep/") "/w" ∧
    findRoot stackedProjects "/w/src/../deep/" = .ok "/w" ∧
    Path.ancestors "src//deep" = ["src//deep", "src", ""] ∧
    findRoot stackedProjects "src//deep" = .error (.rootInvalid "" .notFound) := by
  have hDeep : Path.ancestors "/w/src/../deep/" =
      ["/w/src/../deep/", "/w/src/..", "/w/src", "/w", "/"] := rfl
  have hNearest : stackedProjects.IsNearest (Path.ancestors "/w/src/../deep/") "/w" :=
    ⟨by decide, ["/w/src/../deep/", "/w/src/..", "/w/src"], ["/"], hDeep, by decide⟩
  obtain ⟨-, -, -, -, hFound, -⟩ := findRoot_nearest stackedProjects "/w/src/../deep/"
  obtain ⟨-, -, -, -, -, hRefused⟩ := findRoot_nearest stackedProjects "src//deep"
  exact ⟨hDeep, hNearest, (hFound "/w" hNearest).2.1 "/w" rfl, rfl,
    hRefused (by decide) (by decide) (by decide) rfl⟩

end ToolGate
