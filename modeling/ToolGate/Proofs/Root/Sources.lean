import ToolGate.Proofs.Execution.Trace
import ToolGate.Settings

/-! Where the root of a project comes from. One of three sources decides alone: a flag, a variable
or the search. What the others would have said makes no difference, also when the one that decides
fails. A root that the search has found is found again through each of the three. -/
namespace ToolGate

theorem Path.join_of_isAbsolute {path : String} (h : isAbsolute path.toList = true)
    (base : String) : join base path = path := by
  simp [join, h]

theorem canonicalRoot_eq_ok_iff {files : FileView} {path root : String} :
    canonicalRoot files path = .ok root ↔ files.realPath path = .ok root := by
  rw [canonicalRoot]
  cases files.realPath path <;> simp

/-- What is found is the canonical path of some directory with a manifest. -/
theorem exists_directory_of_findRoot {files : FileView} {start root : String}
    (h : findRoot files start = .ok root) :
    ∃ directory, files.isFile (Path.join directory manifestName) = true ∧
      files.realPath directory = .ok root := by
  unfold findRoot at h
  split at h
  · rename_i directory hFound
    have hManifest := List.find?_some hFound
    exact ⟨directory, hManifest, canonicalRoot_eq_ok_iff.1 h⟩
  · cases h

/-- A directory with a manifest is where the search from it ends. -/
theorem findRoot_of_isFile {files : FileView} {start : String}
    (h : files.isFile (Path.join start manifestName) = true) :
    findRoot files start = canonicalRoot files start := by
  simp [findRoot, Path.ancestors, h]

/-- What a system promises of canonical paths. They are absolute and their own canonical paths, and
a directory holds the same manifest under both of its names. -/
structure FileView.IsCanonical (files : FileView) : Prop where
  absolute {path root : String} (h : files.realPath path = .ok root) :
    Path.isAbsolute root.toList = true
  idempotent {path root : String} (h : files.realPath path = .ok root) :
    files.realPath root = .ok root
  manifest {path root : String} (h : files.realPath path = .ok root) :
    files.isFile (Path.join root manifestName) = files.isFile (Path.join path manifestName)

namespace FileView.IsCanonical

variable {files : FileView} {start root : String}

/-- Under its canonical path the directory is its own root. -/
theorem findRoot_root (hFiles : files.IsCanonical) (h : findRoot files start = .ok root) :
    findRoot files root = .ok root := by
  obtain ⟨directory, hManifest, hPath⟩ := exists_directory_of_findRoot h
  rw [← hFiles.manifest hPath] at hManifest
  rw [findRoot_of_isFile hManifest]
  exact canonicalRoot_eq_ok_iff.2 (hFiles.idempotent hPath)

/-- The root can be named from everywhere. -/
theorem canonicalRoot_join (hFiles : files.IsCanonical) (h : findRoot files start = .ok root)
    (current : String) : canonicalRoot files (Path.join current root) = .ok root := by
  obtain ⟨directory, -, hPath⟩ := exists_directory_of_findRoot h
  rw [Path.join_of_isAbsolute (hFiles.absolute hPath)]
  exact canonicalRoot_eq_ok_iff.2 (hFiles.idempotent hPath)

/-- A root that was found is no empty path, since canonical paths are absolute. -/
theorem ne_empty (hFiles : files.IsCanonical) (h : findRoot files start = .ok root) :
    root ≠ "" := by
  rintro rfl
  obtain ⟨directory, -, hPath⟩ := exists_directory_of_findRoot h
  exact absurd (hFiles.absolute hPath) (by decide)

end FileView.IsCanonical

namespace Settings

/-- The root that is asked for by name: by the flag, or without a flag by a variable that has a
value. -/
inductive AsksFor : Option String → Option String → String → Prop where
  | byFlag (path : String) (rootValue : Option String) : AsksFor (some path) rootValue path
  | byValue {path : String} (h : path ≠ "") : AsksFor none (some path) path

section Choice

variable (files : FileView) {rootFlag rootValue : Option String} (current : String)

/-- A root that is asked for is not searched for, and nothing else is tried if it does not exist. -/
theorem chooseRoot_of_asksFor {path : String} (h : AsksFor rootFlag rootValue path) :
    chooseRoot files rootFlag rootValue current =
      canonicalRoot files (Path.join current path) := by
  cases h with
  | byFlag => rfl
  | byValue hValue =>
      have hKept : (some path).filter (!·.isEmpty) = some path := by simpa using hValue
      simp only [chooseRoot, hKept]

/-- The search begins only where no root is asked for. -/
theorem chooseRoot_of_forall_not (h : ∀ path, ¬ AsksFor rootFlag rootValue path) :
    chooseRoot files rootFlag rootValue current = findRoot files current := by
  cases rootFlag with
  | some path => exact absurd (.byFlag path rootValue) (h path)
  | none =>
      cases rootValue with
      | none => rfl
      | some path =>
          by_cases hValue : path = ""
          · subst hValue
            rfl
          · exact absurd (.byValue hValue) (h path)

/-- A named root depends on the files through canonical paths only. -/
theorem chooseRoot_congr {files other : FileView} (hPaths : other.realPath = files.realPath)
    {otherValue : Option String} {path : String} (h : AsksFor rootFlag rootValue path)
    (hOther : AsksFor rootFlag otherValue path) :
    chooseRoot other rootFlag otherValue current = chooseRoot files rootFlag rootValue current := by
  rw [chooseRoot_of_asksFor other current hOther, chooseRoot_of_asksFor files current h,
    canonicalRoot, canonicalRoot, hPaths]

/-- The result does not depend on the world, only the record is left there. -/
theorem result_fromSources {σ : Type} (world : World σ) (state : σ) (color : Bool) :
    ((fromSources files color rootFlag rootValue current).run world state).result =
      (chooseRoot files rootFlag rootValue current).map (Settings.mk color) := by
  cases hRoot : chooseRoot files rootFlag rootValue current with
  | error error => simp [fromSources, hRoot, Except.map]
  | ok root => simp [fromSources, hRoot, Except.map]

end Choice

/-- The sources of the root, one by one. A root that is asked for by name is used or is an error,
and only if none is asked for the search decides. With a flag neither the variable nor the manifests
matter, and with a variable that has a value the manifests do not. Where the search has found a
root, the flag, the variable and the search from the root itself lead to it again, whatever the
current directory is. The choice of colours is passed on and has no part in this. -/
theorem fromSources_root {σ : Type} (world : World σ) (state : σ) (files : FileView)
    (rootFlag rootValue : Option String) (current : String) :
    let settings := fun (files : FileView) (color : Bool) (rootFlag rootValue : Option String)
        (current : String) =>
      ((fromSources files color rootFlag rootValue current).run world state).result
    (∀ path color, AsksFor rootFlag rootValue path →
      (∀ root, files.realPath (Path.join current path) = .ok root →
        settings files color rootFlag rootValue current = .ok ⟨color, root⟩) ∧
      (∀ cause, files.realPath (Path.join current path) = .error cause →
        settings files color rootFlag rootValue current =
          .error (.rootInvalid (Path.join current path) cause))) ∧
    (∀ color, (∀ path, ¬ AsksFor rootFlag rootValue path) →
      settings files color rootFlag rootValue current =
        (findRoot files current).map (Settings.mk color)) ∧
    (∀ (other : FileView) (color : Bool) (path : String), other.realPath = files.realPath →
      (∀ otherValue, settings other color (some path) otherValue current =
        settings files color (some path) rootValue current) ∧
      (path ≠ "" → settings other color none (some path) current =
        settings files color none (some path) current)) ∧
    (files.IsCanonical → ∀ color root, settings files color none none current = .ok ⟨color, root⟩ →
      ∀ elsewhere,
        (∀ anyValue, settings files color (some root) anyValue elsewhere = .ok ⟨color, root⟩) ∧
        settings files color none (some root) elsewhere = .ok ⟨color, root⟩ ∧
        settings files color none none root = .ok ⟨color, root⟩) ∧
    ∃ resolved : Except PathError String, ∀ color,
      settings files color rootFlag rootValue current = resolved.map (Settings.mk color) := by
  intro settings
  simp only [settings, result_fromSources]
  refine ⟨?_, ?_, ?_, ?_, ⟨_, fun _ => rfl⟩⟩
  · intro path color hAsked
    rw [chooseRoot_of_asksFor files current hAsked, canonicalRoot]
    constructor
    · intro root hPath
      rw [hPath]
      rfl
    · intro cause hPath
      rw [hPath]
      rfl
  · intro color hNone
    rw [chooseRoot_of_forall_not files current hNone]
  · intro other color path hPaths
    refine ⟨fun otherValue => ?_, fun hValue => ?_⟩
    · rw [chooseRoot_congr current hPaths (.byFlag path rootValue) (.byFlag path otherValue)]
    · rw [chooseRoot_congr current hPaths (.byValue hValue) (.byValue hValue)]
  · intro hFiles color root hFound elsewhere
    obtain ⟨found, hRoot, hSettings⟩ := (except_map_eq_ok_iff _ _ _).1 hFound
    obtain rfl : found = root := congrArg Settings.root hSettings
    have hSearch : findRoot files current = .ok found := hRoot
    have hNamed := hFiles.canonicalRoot_join hSearch elsewhere
    refine ⟨fun anyValue => ?_, ?_, ?_⟩
    · rw [chooseRoot_of_asksFor files elsewhere (.byFlag found anyValue), hNamed]
      rfl
    · rw [chooseRoot_of_asksFor files elsewhere (.byValue (hFiles.ne_empty hSearch)), hNamed]
      rfl
    · have hAgain : chooseRoot files none none found = .ok found := hFiles.findRoot_root hSearch
      rw [hAgain]
      rfl

/-- A project in a directory that has a second name. -/
def linkedProject : FileView where
  isFile path := path == "/w/Cargo.toml" || path == "/link/Cargo.toml"
  realPath path := if path = "/w" ∨ path = "/link" then .ok "/w" else .error (.number 2)

/-- The linked project keeps the promises: its second name is resolved to the first one. -/
theorem isCanonical_linkedProject : linkedProject.IsCanonical := by
  have hRoot {path root : String} (h : linkedProject.realPath path = .ok root) :
      root = "/w" ∧ (path = "/w" ∨ path = "/link") := by
    unfold linkedProject at h
    dsimp only at h
    split at h
    · rename_i hPath
      exact ⟨(Except.ok.inj h).symm, hPath⟩
    · cases h
  refine ⟨fun h => ?_, fun h => ?_, fun h => ?_⟩
  · rw [(hRoot h).1]
    decide
  · rw [(hRoot h).1]
    rfl
  · obtain ⟨rfl, rfl | rfl⟩ := hRoot h <;> rfl

/-- Found through its second name, the project has the first one as its root; and a flag that leads
nowhere is an error although the variable leads to the project. -/
theorem fromSources_root_linkedProject :
    let settings := fun (rootFlag rootValue : Option String) (current : String) =>
      ((fromSources linkedProject true rootFlag rootValue current).run
        (.replying (.ok (.exited 0))) ()).result
    settings none none "/link/src" = .ok ⟨true, "/w"⟩ ∧
      settings (some "/w") (some "/gone") "/" = .ok ⟨true, "/w"⟩ ∧
      settings none (some "/w") "/" = .ok ⟨true, "/w"⟩ ∧
      settings none none "/w" = .ok ⟨true, "/w"⟩ ∧
      settings (some "gone") (some "/w") "/link/src" =
        .error (.rootInvalid "/link/src/gone" (.number 2)) := by
  intro settings
  have hFound : settings none none "/link/src" = .ok ⟨true, "/w"⟩ := rfl
  obtain ⟨-, -, -, hAgain, -⟩ := fromSources_root (.replying (.ok (.exited 0))) () linkedProject
    none none "/link/src"
  obtain ⟨hFlag, hValue, hSearch⟩ := hAgain isCanonical_linkedProject true "/w" hFound "/"
  obtain ⟨hNamed, -⟩ := fromSources_root (.replying (.ok (.exited 0))) () linkedProject
    (some "gone") (some "/w") "/link/src"
  exact ⟨hFound, hFlag (some "/gone"), hValue, hSearch,
    (hNamed "gone" true (.byFlag "gone" (some "/w"))).2 (.number 2) rfl⟩

end Settings

end ToolGate
