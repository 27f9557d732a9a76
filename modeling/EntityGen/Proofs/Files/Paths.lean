/-
  Proofs/Files/Paths.lean --- files and directories.

  Source: the specification, section 4.5 (namespace to nested directories).

  The path of a type leads through a directory for every part of its package to a file. The
  name of the file has a dot, and none of the directories has one, so that no file stands
  where another path needs a directory. In lower case the path of a type is that of its name
  in lower case, so that the same holds where letter case is not told apart.
-/
import EntityGen.Proofs.Files.Registry
import EntityGen.Proofs.Text.Lower

set_option autoImplicit false

namespace EntityGen

namespace Files

open EntityGen.Naming (namespaceOf simpleNameOf)

/-! ## Components -/

namespace Path

/-- A path lies above another one if it has the first of its components, and the other has more. -/
def IsAbove (path other : String) : Prop :=
  ∃ rest, rest ≠ [] ∧ components other = components path ++ rest

example : IsAbove "org/acme" "org/acme/Audit.java" :=
  ⟨[.named "Audit.java"], by decide, by decide⟩

/-- A piece with more than dots is a name. -/
theorem inner?_eq_some {segment : String} {c : Char} (mem : c ∈ segment.toList) (other : c ≠ '.') :
    inner? segment = some (.named segment) := by
  have notIdle : ∀ dots : String, dots.toList.all (· == '.') = true → segment ≠ dots := by
    rintro dots all rfl
    exact other (beq_iff_eq.1 (List.all_eq_true.1 all c mem))
  have notEmpty := notIdle "" rfl
  have notDot := notIdle "." rfl
  have notDots := notIdle ".." rfl
  simp [inner?, notEmpty, notDot, notDots]

theorem first?_eq_some {segment : String} {c : Char} (mem : c ∈ segment.toList) (other : c ≠ '.')
    (more : Bool) : first? segment more = some (.named segment) := by
  have inner := inner?_eq_some mem other
  unfold first?
  split
  · rename_i empty
    rw [beq_iff_eq.1 empty] at mem
    exact absurd mem List.not_mem_nil
  · split
    · rename_i dot
      rw [beq_iff_eq.1 dot] at mem
      exact absurd (List.mem_singleton.1 mem) other
    · exact inner

theorem eq_of_inner? {segment name : String} (meant : inner? segment = some (.named name)) :
    name = segment := by
  unfold inner? at meant
  split at meant
  · cases meant
  · split at meant
    · cases meant
    · cases meant
      rfl

theorem eq_of_first? {segment name : String} {more : Bool}
    (meant : first? segment more = some (.named name)) : name = segment := by
  unfold first? at meant
  split at meant
  · split at meant
    · cases meant
    · cases meant
  · split at meant
    · cases meant
    · exact eq_of_inner? meant

theorem components_eq {path segment : String} {rest : List String}
    (pieces : segments path = segment :: rest) :
    components path = (first? segment !rest.isEmpty).toList ++ rest.filterMap inner? := by
  rw [components, meanings, pieces]
  simp only [List.filterMap_cons, List.filterMap_map]
  cases first? segment !rest.isEmpty with
  | none => rfl
  | some component => rfl

/-- A path that ends with a name leads to it through names of directories. -/
theorem exists_components {path file : String} {directories : List String}
    (pieces : segments path = directories ++ [file]) {c : Char} (mem : c ∈ file.toList)
    (other : c ≠ '.') :
    ∃ before, components path = before ++ [.named file] ∧
      ∀ name, Component.named name ∈ before → name ∈ directories := by
  cases directories with
  | nil =>
    refine ⟨[], ?_, fun name listed => absurd listed List.not_mem_nil⟩
    rw [components_eq pieces, first?_eq_some mem other]
    rfl
  | cons directory directories =>
    refine ⟨(first? directory true).toList ++ directories.filterMap inner?, ?_, ?_⟩
    · have more : (directories ++ [file]).isEmpty = false := by simp
      rw [List.cons_append] at pieces
      rw [components_eq pieces, more, List.filterMap_append, List.append_assoc,
        List.filterMap_cons_some (inner?_eq_some mem other)]
      rfl
    · intro name listed
      rcases List.mem_append.1 listed with start | later
      · rw [eq_of_first? (Option.mem_toList.1 start)]
        exact List.mem_cons_self
      · obtain ⟨segment, among, meant⟩ := List.mem_filterMap.1 later
        rw [eq_of_inner? meant]
        exact List.mem_cons_of_mem directory among

/-- A path does not lie above one that leads to its file through directories of other names. -/
theorem not_isAbove_of_components {path other : String} {before before' : List Component}
    {file file' : Component} (leads : components path = before ++ [file])
    (leads' : components other = before' ++ [file']) (apart : file ∉ before') :
    ¬ IsAbove path other := by
  rintro ⟨rest, more, whole⟩
  obtain ⟨inner, last, rfl⟩ := (List.eq_nil_or_concat' rest).resolve_left more
  rw [leads', leads, ← List.append_assoc] at whole
  have directories := (List.append_inj' whole rfl).1
  apply apart
  rw [directories]
  exact List.mem_append_left inner (List.mem_append_right before (List.mem_singleton_self file))

end Path

/-! ## Paths of types -/

namespace FileEntry

/-- The path of a type leads through directories without dots to a file with one. -/
theorem segments_classPath {name extension : String} (packaged : (namespaceOf name).isEmpty = false)
    (plain : '/' ∉ (simpleNameOf name).toList) (plainExtension : '/' ∉ extension.toList) :
    ∃ directories,
      Path.segments (classPath name extension) =
        directories ++ [simpleNameOf name ++ "." ++ extension] ∧
      ∀ directory ∈ directories, '.' ∉ directory.toList := by
  have file : '/' ∉ (simpleNameOf name).toList ++ '.' :: extension.toList := by
    simp [plain, plainExtension]
  refine ⟨(Text.piecesAt '/' ((namespaceOf name).toList.map slashed)).map String.ofList, ?_, ?_⟩
  · rw [Path.segments, Text.split, toList_classPath packaged, Text.piecesAt_append_mark,
      Text.piecesAt_of_not_mem file, List.map_append, List.map_singleton, ← Naming.toList_dotted,
      String.ofList_toList]
    rfl
  · intro directory mem dot
    obtain ⟨piece, among, rfl⟩ := List.mem_map.1 mem
    rw [String.toList_ofList] at dot
    have within := (Text.exists_mem_piecesAt_iff (by decide)).1 ⟨piece, among, dot⟩
    obtain ⟨c, -, made⟩ := List.mem_map.1 within
    unfold slashed at made
    split at made
    · exact absurd made (by decide)
    · rename_i notDot
      exact notDot made

/-- The path of a type does not lie above that of a type. -/
theorem not_isAbove_classPath {name other extension : String}
    (packaged : (namespaceOf name).isEmpty = false)
    (packaged' : (namespaceOf other).isEmpty = false) (plain : '/' ∉ (simpleNameOf name).toList)
    (plain' : '/' ∉ (simpleNameOf other).toList) (plainExtension : '/' ∉ extension.toList) {c : Char}
    (mem : c ∈ extension.toList) (notDot : c ≠ '.') :
    ¬ Path.IsAbove (classPath name extension) (classPath other extension) := by
  have inFile : ∀ simpleName : String, c ∈ (simpleName ++ "." ++ extension).toList := by
    intro simpleName
    rw [String.toList_append]
    exact List.mem_append_right _ mem
  obtain ⟨directories, pieces, -⟩ := segments_classPath packaged plain plainExtension
  obtain ⟨directories', pieces', noDots⟩ := segments_classPath packaged' plain' plainExtension
  obtain ⟨before, leads, -⟩ := Path.exists_components pieces (inFile _) notDot
  obtain ⟨before', leads', names⟩ := Path.exists_components pieces' (inFile _) notDot
  apply Path.not_isAbove_of_components leads leads'
  intro named
  apply noDots _ (names _ named)
  simp [String.toList_append]

theorem toLower_slashed (c : Char) : (slashed c).toLower = slashed c.toLower := by
  by_cases dot : c = '.'
  · rw [dot]
    rfl
  · have stays : c.toLower ≠ '.' := mt (Text.toLower_eq_iff (by decide)).1 dot
    rw [slashed, slashed, if_neg dot, if_neg stays]

/-- The path of a type in lower case is that of its name in lower case. -/
theorem lower_classPath {name extension : String} (packaged : (namespaceOf name).isEmpty = false)
    (plain : Text.AllAscii name) (plainExtension : Text.AllAscii extension) :
    Text.lower (classPath name extension) = classPath (Text.lower name) (Text.lower extension) := by
  obtain ⟨package, simple⟩ := Naming.allAscii_parts packaged plain
  obtain ⟨packageLower, simpleLower⟩ := Naming.parts_lower packaged plain
  have path : Text.AllAscii (classPath name extension) := by
    intro c mem
    rw [toList_classPath packaged] at mem
    simp only [List.mem_append, List.mem_map, List.mem_cons] at mem
    rcases mem with ⟨d, listed, rfl⟩ | rfl | inSimple | rfl | inExtension
    · unfold slashed
      split
      · decide
      · exact package d listed
    · decide
    · exact simple c inSimple
    · decide
    · exact plainExtension c inExtension
  rw [← String.toList_inj, Text.toList_lower path, toList_classPath packaged,
    toList_classPath (Naming.packaged_lower packaged plain), packageLower, simpleLower,
    Text.toList_lower package, Text.toList_lower simple, Text.toList_lower plainExtension]
  simp only [List.map_append, List.map_cons, List.map_map]
  have directories : Char.toLower ∘ slashed = slashed ∘ Char.toLower := funext toLower_slashed
  rw [directories]
  rfl

end FileEntry

end Files

end EntityGen
