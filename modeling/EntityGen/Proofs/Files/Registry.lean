/-
  Proofs/Files/Registry.lean --- paths of generated files.

  Source: the specification, section 4.5 (one file for each type; existing files are
  overwritten).

  A registry maps paths to files: a path stands for the first file that has it. If no path
  occurs twice the order of the files does not matter. The path of a type spells its package
  with slashes, so that types with different names may share a path only if there are
  slashes in the names themselves.
-/
import EntityGen.Files.Registry
import EntityGen.Proofs.Naming
import Mathlib.Data.List.Nodup

set_option autoImplicit false

namespace EntityGen.Files

open EntityGen.Naming (namespaceOf simpleNameOf)

/-! ## Lookups -/

namespace Registry

variable {registry other : Registry}

/-- The paths of the files. -/
def paths (registry : Registry) : List String :=
  registry.entries.map FileEntry.path

theorem hit_of_get? {path : String} {entry : FileEntry}
    (found : registry.get? path = some entry) : entry.path = path := by
  unfold get? at found
  simpa using List.find?_some found

/-- Where no path occurs twice, a path stands for any file that has it. -/
theorem get?_eq_some_iff (distinct : registry.paths.Nodup) {path : String} {entry : FileEntry} :
    registry.get? path = some entry ↔ entry ∈ registry.entries ∧ entry.path = path := by
  constructor
  · intro found
    have hit := hit_of_get? found
    exact ⟨List.mem_of_find?_eq_some found, hit⟩
  · rintro ⟨mem, rfl⟩
    cases found : registry.get? entry.path with
    | none =>
      have miss := List.find?_eq_none.1 found entry mem
      simp at miss
    | some first =>
      have hit := hit_of_get? found
      rw [List.inj_on_of_nodup_map distinct (List.mem_of_find?_eq_some found) mem hit]

/-- Where no path occurs twice, the order of the files does not matter. -/
theorem get?_eq_of_perm (perm : other.entries.Perm registry.entries)
    (distinct : registry.paths.Nodup) (path : String) : other.get? path = registry.get? path := by
  have distinct' : other.paths.Nodup := (perm.map FileEntry.path).nodup_iff.2 distinct
  refine Option.ext fun entry => ?_
  rw [get?_eq_some_iff distinct, get?_eq_some_iff distinct', perm.mem_iff]

end Registry

/-! ## Paths of types -/

namespace FileEntry

/-- A character of a package as it stands in a path. -/
def slashed (c : Char) : Char :=
  if c = '.' then '/' else c

theorem toList_classPath {name extension : String}
    (packaged : (namespaceOf name).isEmpty = false) :
    (classPath name extension).toList = (namespaceOf name).toList.map slashed ++
      '/' :: ((simpleNameOf name).toList ++ '.' :: extension.toList) := by
  unfold classPath
  simp only [packaged, Bool.false_eq_true, if_false, String.toList_append]
  simp [Text.replaceChar, slashed]

/-- A path tells the package and the simple name once the length of the package is known. -/
theorem eq_of_classPath_of_namespaceOf {name other extension : String}
    (packaged : (namespaceOf name).isEmpty = false) (packaged' : (namespaceOf other).isEmpty = false)
    (same : classPath name extension = classPath other extension)
    (package : namespaceOf name = namespaceOf other) : name = other := by
  have spelled := congrArg String.toList same
  rw [toList_classPath packaged, toList_classPath packaged', package] at spelled
  have simple : simpleNameOf name = simpleNameOf other := by
    have tails := List.append_cancel_left spelled
    exact String.toList_inj.1 (List.append_cancel_right (List.cons.inj tails).2)
  rw [← Naming.dotted_namespaceOf packaged, ← Naming.dotted_namespaceOf packaged', package, simple]

/-- Packages without slashes are told by how they stand in a path. -/
theorem eq_of_map_slashed {package other : List Char} (plain : '/' ∉ package)
    (plain' : '/' ∉ other) (same : package.map slashed = other.map slashed) : package = other := by
  have told : ∀ c d : Char, c ≠ '/' → d ≠ '/' → slashed c = slashed d → c = d := by
    intro c d notSlash notSlash' alike
    unfold slashed at alike
    split at alike
    · rename_i dot
      split at alike
      · rename_i dot'
        rw [dot, dot']
      · exact absurd alike.symm notSlash'
    · split at alike
      · exact absurd alike notSlash
      · exact alike
  induction package generalizing other with
  | nil =>
    cases other with
    | nil => rfl
    | cons c rest => cases same
  | cons c rest ih =>
    cases other with
    | nil => cases same
    | cons d more =>
      simp only [List.mem_cons, not_or] at plain plain'
      have heads := told c d (Ne.symm plain.1) (Ne.symm plain'.1) (List.cons.inj same).1
      rw [heads, ih plain.2 plain'.2 (List.cons.inj same).2]

/-- A name without a slash has none in its parts. -/
theorem plain_parts {name : String} (packaged : (namespaceOf name).isEmpty = false)
    (plain : '/' ∉ name.toList) :
    '/' ∉ (namespaceOf name).toList ∧ '/' ∉ (simpleNameOf name).toList := by
  rw [← Naming.dotted_namespaceOf packaged, Naming.toList_dotted] at plain
  simp only [List.mem_append, List.mem_cons, not_or] at plain
  exact ⟨plain.1, plain.2.2⟩

/-- Types whose names hold no slash have paths of their own. -/
theorem eq_of_classPath_of_plain {name other extension : String}
    (packaged : (namespaceOf name).isEmpty = false)
    (packaged' : (namespaceOf other).isEmpty = false) (plain : '/' ∉ name.toList)
    (plain' : '/' ∉ other.toList) (plainExtension : '/' ∉ extension.toList)
    (same : classPath name extension = classPath other extension) : name = other := by
  obtain ⟨package, simple⟩ := plain_parts packaged plain
  obtain ⟨package', simple'⟩ := plain_parts packaged' plain'
  have spelled := congrArg String.toList same
  rw [toList_classPath packaged, toList_classPath packaged'] at spelled
  -- The last slash of the path stands before the simple name.
  have tail : ∀ {simpleName : List Char}, '/' ∉ simpleName →
      '/' ∉ simpleName ++ '.' :: extension.toList := by
    intro simpleName free
    simp [free, plainExtension]
  have cut := Text.cutAtLast_append (tail simple) ((namespaceOf name).toList.map slashed)
  rw [spelled, Text.cutAtLast_append (tail simple')] at cut
  have packages : (namespaceOf other).toList.map slashed = (namespaceOf name).toList.map slashed :=
    congrArg Prod.fst (Option.some.inj cut)
  have equal := String.toList_inj.1 (eq_of_map_slashed package' package packages)
  exact eq_of_classPath_of_namespaceOf packaged packaged' same equal.symm

/-- What follows a package in a path is a slash, and what follows it in a file is a semicolon: no two
packages stand for the same path and the same file. -/
theorem eq_of_slashed_of_semicolon {package other simple others text texts : List Char}
    (paths : package.map slashed ++ '/' :: simple = other.map slashed ++ '/' :: others)
    (files : package ++ ';' :: text = other ++ ';' :: texts) : package = other := by
  induction package generalizing other with
  | nil =>
    cases other with
    | nil => rfl
    | cons c rest =>
      -- The semicolon would be part of the other package, and a slash in its path.
      have first : ';' = c := (List.cons.inj files).1
      have slash : '/' = slashed c := (List.cons.inj paths).1
      rw [← first] at slash
      exact absurd slash (by decide)
  | cons c rest ih =>
    cases other with
    | nil =>
      have first : c = ';' := (List.cons.inj files).1
      have slash : slashed c = '/' := (List.cons.inj paths).1
      rw [first] at slash
      exact absurd slash (by decide)
    | cons c' rest' =>
      have first : c = c' := (List.cons.inj files).1
      have later := ih (List.cons.inj paths).2 (List.cons.inj files).2
      rw [first, later]

end FileEntry

end EntityGen.Files
