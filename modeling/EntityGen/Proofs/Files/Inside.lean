/-
  Proofs/Files/Inside.lean --- files inside the output directory.

  Source: the specification, section 4.5: the path of a file is the output directory,
  the namespace as directories, and the simple name.

  The pieces of a path are joined one by one behind the output directory, and a piece
  without slashes adds the component that it means and no other. In the path of a type no
  piece is made of dots alone, whatever the name of the type is: every dot of the name
  before the last one became a slash, there is none behind it, and the last piece ends with
  the extension. So the file of a type lies inside the output directory.

  Links are not followed: inside is said of the components of a path, which is what the
  generator decides.
-/
import EntityGen.Proofs.Files.Paths

set_option autoImplicit false

namespace EntityGen

/-! ## Pieces -/

namespace Text

variable {mark : Char}

/-- No piece has the mark at which the text is cut. -/
theorem not_mem_of_mem_piecesAt {cs piece : List Char} (mem : piece ∈ piecesAt mark cs) :
    mark ∉ piece := by
  induction cs generalizing piece with
  | nil =>
    rw [List.mem_singleton.1 mem]
    exact List.not_mem_nil
  | cons c rest ih =>
    rw [piecesAt] at mem
    split at mem
    · rcases List.mem_cons.1 mem with rfl | later
      · exact List.not_mem_nil
      · exact ih later
    · rename_i other
      cases pieces : piecesAt mark rest with
      | nil => exact absurd pieces (piecesAt_ne_nil mark rest)
      | cons first more =>
        rw [pieces] at mem ih
        rcases List.mem_cons.1 mem with rfl | later
        · rw [List.mem_cons, not_or]
          exact ⟨Ne.symm other, ih List.mem_cons_self⟩
        · exact ih (List.mem_cons_of_mem first later)

/-- A text of one piece is that piece. -/
theorem eq_of_piecesAt_eq_singleton {cs piece : List Char} (alone : piecesAt mark cs = [piece]) :
    piece = cs := by
  by_cases hit : mark ∈ cs
  · obtain ⟨before, after, rfl⟩ := List.append_of_mem hit
    rw [piecesAt_append_mark] at alone
    have early := List.length_pos_iff.2 (piecesAt_ne_nil mark before)
    have late := List.length_pos_iff.2 (piecesAt_ne_nil mark after)
    have two := congrArg List.length alone
    rw [List.length_append, List.length_singleton] at two
    omega
  · rw [piecesAt_of_not_mem hit] at alone
    exact (List.singleton_inj.1 alone).symm

theorem not_mem_of_mem_split {s piece : String} (mem : piece ∈ split mark s) :
    mark ∉ piece.toList := by
  obtain ⟨chars, among, rfl⟩ := List.mem_map.1 mem
  rw [String.toList_ofList]
  exact not_mem_of_mem_piecesAt among

/-- A character other than the mark that stands in a piece stands in the text. -/
theorem mem_of_mem_split {c : Char} (other : c ≠ mark) {s piece : String}
    (mem : piece ∈ split mark s) (inside : c ∈ piece.toList) : c ∈ s.toList := by
  obtain ⟨chars, among, rfl⟩ := List.mem_map.1 mem
  rw [String.toList_ofList] at inside
  exact (exists_mem_piecesAt_iff other).1 ⟨chars, among, inside⟩

end Text

namespace Files

open EntityGen.Naming (namespaceOf simpleNameOf)

/-! ## Joining -/

namespace Path

variable {base segment : String}

/-- A slash and a piece behind a path are one more piece. -/
theorem segments_append (plain : '/' ∉ segment.toList) (base : String) :
    segments (base ++ "/" ++ segment) = segments base ++ [segment] := by
  have spelled : (base ++ "/" ++ segment).toList = base.toList ++ '/' :: segment.toList := by
    simp [String.toList_append]
  rw [segments, Text.split, spelled, Text.piecesAt_append_mark, Text.piecesAt_of_not_mem plain,
    List.map_append, List.map_singleton, String.ofList_toList]
  rfl

theorem exists_segments_eq_cons (path : String) :
    ∃ first rest, segments path = first :: rest := by
  refine List.exists_cons_of_ne_nil fun empty => ?_
  exact Text.piecesAt_ne_nil '/' path.toList (List.map_eq_nil_iff.1 empty)

/-- What is behind a slash adds what it means. -/
theorem components_slash_append (plain : '/' ∉ segment.toList) (base : String) :
    components (base ++ "/" ++ segment) =
      components (base ++ "/") ++ (inner? segment).toList := by
  obtain ⟨first, rest, pieces⟩ := exists_segments_eq_cons base
  have behind : ∀ added : String, '/' ∉ added.toList →
      components (base ++ "/" ++ added) =
        (first? first true).toList ++ rest.filterMap inner? ++ (inner? added).toList := by
    intro added plain
    have longer : (rest ++ [added]).isEmpty = false := by simp
    have last : [added].filterMap inner? = (inner? added).toList := by
      cases meant : inner? added <;> simp [meant]
    have whole := segments_append plain base
    rw [pieces, List.cons_append] at whole
    rw [components_eq whole, longer, List.filterMap_append, last, List.append_assoc]
    rfl
  have ended := behind "" List.not_mem_nil
  rw [String.append_empty] at ended
  rw [behind segment plain, ended]
  exact congrArg (· ++ _) (List.append_nil _).symm

/-- A slash at the end of a path means nothing, unless it is the root. -/
theorem components_slash (notEmpty : base ≠ "") : components (base ++ "/") = components base := by
  obtain ⟨first, rest, pieces⟩ := exists_segments_eq_cons base
  have more : segments (base ++ "/") = first :: (rest ++ [""]) := by
    have noSlash : '/' ∉ "".toList := List.not_mem_nil
    have ended := segments_append noSlash base
    rwa [String.append_empty, pieces] at ended
  -- Only an empty first piece depends on whether there are others, and alone it is an empty path.
  have start : first? first true = first? first !rest.isEmpty := by
    cases rest with
    | cons second others => rfl
    | nil =>
      obtain ⟨piece, alone, rfl⟩ := List.map_eq_singleton_iff.1 pieces
      have whole : String.ofList piece ≠ "" := by
        rwa [Text.eq_of_piecesAt_eq_singleton alone, String.ofList_toList]
      simp [first?, whole]
  have longer : (rest ++ [""]).isEmpty = false := by simp
  rw [components_eq more, components_eq pieces, longer, List.filterMap_append]
  exact congrArg₂ (·.toList ++ ·) start (List.append_nil _)

/-- A piece alone means the same as behind others, unless it is a dot. -/
theorem components_of_plain (plain : '/' ∉ segment.toList) (notDot : segment ≠ ".") :
    components segment = (inner? segment).toList := by
  have alone : segments segment = [segment] := by
    rw [segments, Text.split, Text.piecesAt_of_not_mem plain, List.map_singleton,
      String.ofList_toList]
  rw [components_eq alone, List.filterMap_nil, List.append_nil]
  by_cases empty : segment = ""
  · rw [empty]
    rfl
  · simp [first?, empty, notDot]

/-- A piece that is joined to a path adds what it means. -/
theorem components_join (plain : '/' ∉ segment.toList) (notDot : segment ≠ ".") (base : String) :
    components (join base segment) = components base ++ (inner? segment).toList := by
  have relative : isAbsolute segment = false := by
    have head : segment.toList.head? ≠ some '/' := fun slash =>
      plain (List.mem_of_head? slash)
    simpa [isAbsolute] using head
  by_cases empty : base = ""
  · have joined : join base segment = segment := by simp [join, relative, empty]
    rw [joined, empty, components_of_plain plain notDot]
    rfl
  by_cases ended : base.toList.getLast? = some '/'
  · obtain ⟨chars, whole⟩ := List.getLast?_eq_some_iff.1 ended
    have spelled : base = String.ofList chars ++ "/" := by
      rw [← String.toList_inj, whole, String.toList_append, String.toList_ofList]
      rfl
    have joined : join base segment = base ++ segment := by simp [join, relative, ended]
    rw [joined, spelled, components_slash_append plain]
  · have joined : join base segment = base ++ "/" ++ segment := by
      simp [join, relative, ended, empty]
    rw [joined, components_slash_append plain, components_slash empty]

/-- Pieces that are joined one after the other add what they mean. -/
theorem components_foldl_join {pieces : List String}
    (each : ∀ piece ∈ pieces, '/' ∉ piece.toList ∧ piece ≠ ".") (base : String) :
    components (pieces.foldl join base) = components base ++ pieces.filterMap inner? := by
  induction pieces generalizing base with
  | nil => exact (List.append_nil _).symm
  | cons piece rest ih =>
    obtain ⟨plain, notDot⟩ := each piece List.mem_cons_self
    have later := ih fun other mem => each other (List.mem_cons_of_mem piece mem)
    rw [List.foldl_cons, later, components_join plain notDot, List.append_assoc]
    cases meant : inner? piece <;> simp [meant]

/-! ## Names of entries -/

/-- A text that is the name of an entry of a directory: neither empty, nor a step to the directory
itself or to the one above, nor with a slash. -/
structure IsEntryName (name : String) : Prop where
  notEmpty : name ≠ ""
  notCurrent : name ≠ "."
  notParent : name ≠ ".."
  plain : '/' ∉ name.toList

/-- A piece with more than dots is the name of an entry. -/
theorem isEntryName_of_mem {name : String} {c : Char} (mem : c ∈ name.toList) (other : c ≠ '.')
    (plain : '/' ∉ name.toList) : IsEntryName name := by
  have notIdle : ∀ dots : String, dots.toList.all (· == '.') = true → name ≠ dots := by
    rintro dots all rfl
    exact other (beq_iff_eq.1 (List.all_eq_true.1 all c mem))
  exact ⟨notIdle "" rfl, notIdle "." rfl, notIdle ".." rfl, plain⟩

/-- Pieces that are names of entries mean these entries, and empty ones mean nothing. -/
theorem filterMap_inner?_eq {pieces : List String}
    (each : ∀ piece ∈ pieces, piece ≠ "" → IsEntryName piece) :
    pieces.filterMap inner? = (pieces.filter (· ≠ "")).map .named := by
  induction pieces with
  | nil => rfl
  | cons piece rest ih =>
    have later := ih fun other mem => each other (List.mem_cons_of_mem piece mem)
    by_cases empty : piece = ""
    · simpa [empty, inner?] using later
    · have entry := each piece List.mem_cons_self empty
      have meant : inner? piece = some (.named piece) := by
        simp [inner?, empty, entry.notCurrent, entry.notParent]
      rw [List.filterMap_cons_some meant, later, List.filter_cons_of_pos (by simpa using empty),
        List.map_cons]

end Path

/-! ## Paths of types -/

namespace FileEntry

/-- Before the extension the path of a type has no dots. -/
theorem exists_classPath_eq (name extension : String) :
    ∃ front, classPath name extension = front ++ ("." ++ extension) ∧ '.' ∉ front.toList := by
  have simple := Naming.not_mem_simpleNameOf name
  by_cases unpackaged : (namespaceOf name).isEmpty = true
  · refine ⟨simpleNameOf name, ?_, simple⟩
    simp only [classPath, unpackaged, if_true, String.append_assoc]
  · refine ⟨Text.replaceChar '.' '/' (namespaceOf name) ++ "/" ++ simpleNameOf name, ?_, ?_⟩
    · simp only [classPath, unpackaged, if_false, String.append_assoc, Bool.false_eq_true]
    · have packages : '.' ∉ (Text.replaceChar '.' '/' (namespaceOf name)).toList := by
        rw [Text.replaceChar, String.toList_ofList]
        intro dot
        obtain ⟨c, -, made⟩ := List.mem_map.1 dot
        split at made
        · exact absurd made (by decide)
        · rename_i other
          exact other made
      simp [String.toList_append, packages, simple]

/-- The last piece of the path of a type ends with the extension, and there is no dot elsewhere. -/
theorem exists_segments_classPath_eq {extension : String} (plain : '/' ∉ extension.toList)
    (name : String) :
    ∃ directories last, Path.segments (classPath name extension) =
        directories ++ [last ++ ("." ++ extension)] ∧
      ∀ directory ∈ directories, '.' ∉ directory.toList := by
  obtain ⟨front, path, noDots⟩ := exists_classPath_eq name extension
  have added : '/' ∉ ("." ++ extension).toList := by simp [String.toList_append, plain]
  obtain ⟨directories, last, pieces, whole⟩ := Text.split_append added front
  refine ⟨directories, last, ?_, fun directory mem dot => ?_⟩
  · rw [Path.segments, path, whole]
  · have among : directory ∈ Text.split '/' front := pieces ▸ List.mem_append_left [last] mem
    exact noDots (Text.mem_of_mem_split (by decide) among dot)

/-- The pieces of the path of a type that are not empty are names of entries, the last one among
them. -/
theorem isEntryName_of_mem_segments {extension : String} (extended : extension ≠ "")
    (plain : '/' ∉ extension.toList) (undotted : '.' ∉ extension.toList) (name : String) :
    (∃ file ∈ Path.segments (classPath name extension), file ≠ "") ∧
      ∀ piece ∈ Path.segments (classPath name extension), piece ≠ "" → Path.IsEntryName piece := by
  obtain ⟨directories, last, pieces, noDots⟩ := exists_segments_classPath_eq plain name
  obtain ⟨letter, rest, letters⟩ := List.exists_cons_of_ne_nil
    (mt String.toList_eq_nil_iff.1 extended)
  have other : letter ≠ '.' := by
    rintro rfl
    exact undotted (letters ▸ List.mem_cons_self)
  have inside : letter ∈ (last ++ ("." ++ extension)).toList := by
    simp [String.toList_append, letters]
  have named : ∀ piece ∈ Path.segments (classPath name extension), piece ≠ "" →
      Path.IsEntryName piece := by
    intro piece mem filled
    have free := Text.not_mem_of_mem_split mem
    rw [pieces] at mem
    rcases List.mem_append.1 mem with directory | file
    · obtain ⟨c, chars, spelled⟩ := List.exists_cons_of_ne_nil
        (mt String.toList_eq_nil_iff.1 filled)
      have first : c ∈ piece.toList := spelled ▸ List.mem_cons_self
      refine Path.isEntryName_of_mem first ?_ free
      rintro rfl
      exact noDots piece directory first
    · rw [List.mem_singleton.1 file] at free ⊢
      exact Path.isEntryName_of_mem inside other free
  refine ⟨⟨last ++ ("." ++ extension), ?_, ?_⟩, named⟩
  · rw [pieces]
    exact List.mem_append_right _ List.mem_cons_self
  · intro empty
    rw [empty] at inside
    exact absurd inside List.not_mem_nil

/-! ## Main result -/

/-- Whatever a type is called, its file lies inside the output directory: the components of its path
are those of the output directory and, behind them, the pieces of the path of the type that are not
empty. There is at least one, and each is the name of an entry, so that none leads to the root, to
the directory itself or to the one above. -/
theorem fullPath_inside {extension : String} (extended : extension ≠ "")
    (plain : '/' ∉ extension.toList) (undotted : '.' ∉ extension.toList)
    (name content base : String) :
    ∃ added, added = (Path.segments (classPath name extension)).filter (· ≠ "") ∧ added ≠ [] ∧
      Path.components ((ofClass name extension content).fullPath base) =
        Path.components base ++ added.map .named ∧
      ∀ piece ∈ added, Path.IsEntryName piece := by
  obtain ⟨⟨file, listed, filled⟩, named⟩ :=
    isEntryName_of_mem_segments extended plain undotted name
  refine ⟨_, rfl, ?_, ?_, ?_⟩
  · exact List.ne_nil_of_mem (List.mem_filter.2 ⟨listed, by simpa using filled⟩)
  · have each : ∀ piece ∈ Path.segments (classPath name extension),
        '/' ∉ piece.toList ∧ piece ≠ "." := by
      intro piece mem
      refine ⟨Text.not_mem_of_mem_split mem, ?_⟩
      rintro rfl
      exact (named _ mem (by decide)).notCurrent rfl
    rw [fullPath, ofClass, Path.components_foldl_join each, Path.filterMap_inner?_eq named]
  · intro piece mem
    obtain ⟨among, filled⟩ := List.mem_filter.1 mem
    exact named piece among (by simpa using filled)

/-- A name made to lead out of the output directory. -/
def straying : String := "/../..etc/.passwd/."

theorem fullPath_inside_straying :
    "java" ≠ "" ∧ '/' ∉ "java".toList ∧ '.' ∉ "java".toList ∧
      ∃ added, added = (Path.segments (classPath straying "java")).filter (· ≠ "") ∧ added ≠ [] ∧
        Path.components ((ofClass straying "java" "").fullPath "build/out") =
          Path.components "build/out" ++ added.map .named ∧
        ∀ piece ∈ added, Path.IsEntryName piece := by
  have extended : "java" ≠ "" := by decide
  have plain : '/' ∉ "java".toList := by decide
  have undotted : '.' ∉ "java".toList := by decide
  exact ⟨extended, plain, undotted, fullPath_inside extended plain undotted straying "" "build/out"⟩

end FileEntry

end Files

end EntityGen
