/-
  Proofs/Java/Placement.lean --- places of generated files.

  Source: the specification, section 4.5 (one file for each type) and section 7 (collisions
  are found before any file is written).

  The files of a model that was read from a source and has no errors do not get in each
  other's way: no two of them have one path, and none has a path that another needs for a
  directory. This holds where letter case is told apart and where it is not. The checks
  compare the names of the types in lower case, the paths are made of the parts of the
  names; that the parts are identifiers leads from one to the other.
-/
import EntityGen.Proofs.Files.Paths
import EntityGen.Proofs.Java.Independence
import EntityGen.Proofs.Java.ProgramNames
import EntityGen.Proofs.Model.Accepted

set_option autoImplicit false

namespace EntityGen.Java

open EntityGen.Blueprint (Program Variant)
open EntityGen.Compile (Clean generatedNames)
open EntityGen.Files (FileEntry Registry)
open EntityGen.Files.Path (IsAbove)
open EntityGen.Model (DataModel Source WellFormed)
open EntityGen.Naming (namespaceOf simpleNameOf)

/-! ## Names that can be placed -/

/-- A name with a package that consists of plain characters, none of them a slash. -/
structure Placeable (name : String) : Prop where
  packaged : (namespaceOf name).isEmpty = false
  ascii : Text.AllAscii name
  noSlash : '/' ∉ name.toList

/-- The characters of a name of identifiers are dots and characters of identifiers. -/
theorem eq_dot_or_isIdentifierPart {name : String} (legal : AllIdentifiers (segments name)) {c : Char}
    (mem : c ∈ name.toList) : c = '.' ∨ isIdentifierPart c = true := by
  by_cases dot : c = '.'
  · exact Or.inl dot
  · right
    obtain ⟨piece, among, inside⟩ := (Text.exists_mem_piecesAt_iff dot).2 mem
    have identifier := legal (String.ofList piece) (List.mem_map_of_mem among)
    have part := hasIdentifierParts_of_isIdentifier identifier c
    rw [String.toList_ofList] at part
    exact part inside

theorem placeable_of_allIdentifiers {name : String} (packaged : (namespaceOf name).isEmpty = false)
    (legal : AllIdentifiers (segments name)) : Placeable name where
  packaged := packaged
  ascii := by
    intro c mem
    rcases eq_dot_or_isIdentifierPart legal mem with rfl | part
    · decide
    · exact isAscii_of_isIdentifierPart part
  noSlash := by
    intro slash
    rcases eq_dot_or_isIdentifierPart legal slash with dot | part
    · exact absurd dot (by decide)
    · exact absurd part (by decide)

/-- In lower case a name can be placed as well. -/
theorem Placeable.lower {name : String} (placeable : Placeable name) :
    (namespaceOf (Text.lower name)).isEmpty = false ∧ '/' ∉ (Text.lower name).toList := by
  refine ⟨Naming.packaged_lower placeable.packaged placeable.ascii, ?_⟩
  rw [Text.mem_lower_iff placeable.ascii (by decide)]
  exact placeable.noSlash

/-- The generated types of a clean model that was read from a source can be placed. -/
theorem placeable_of_mem_generatedNames {model : DataModel} (clean : Clean model)
    (formed : WellFormed model.objects) {name : String} (mem : name ∈ generatedNames model) :
    Placeable name := by
  have legal : ∀ object ∈ model.objects, AllIdentifiers (segments object.qualifiedName) := by
    intro object declared
    exact (formed.each object declared).segments
  exact placeable_of_allIdentifiers (packaged_of_mem_generatedNames clean mem)
    (allIdentifiers_generatedNames_iff.2 legal name mem)

/-! ## Paths -/

/-- The path of the source file of a type. -/
def sourcePath (name : String) : String :=
  FileEntry.classPath name fileExtension

theorem Placeable.lower_sourcePath {name : String} (placeable : Placeable name) :
    Text.lower (sourcePath name) = sourcePath (Text.lower name) := by
  have ascii : Text.AllAscii fileExtension := by decide
  have small : Text.lower fileExtension = fileExtension := by decide
  have spelled := FileEntry.lower_classPath placeable.packaged placeable.ascii ascii
  rw [small] at spelled
  exact spelled

/-- Names that differ by more than letter case have paths that do. -/
theorem Placeable.lower_eq_of_sourcePath {name other : String} (placeable : Placeable name)
    (placeable' : Placeable other)
    (same : Text.lower (sourcePath name) = Text.lower (sourcePath other)) :
    Text.lower name = Text.lower other := by
  rw [placeable.lower_sourcePath, placeable'.lower_sourcePath] at same
  obtain ⟨packaged, plain⟩ := placeable.lower
  obtain ⟨packaged', plain'⟩ := placeable'.lower
  exact FileEntry.eq_of_classPath_of_plain packaged packaged' plain plain' (by decide) same

/-- No path lies above another one, with or without regard to letter case. -/
theorem Placeable.not_isAbove {name other : String} (placeable : Placeable name)
    (placeable' : Placeable other) :
    ¬ IsAbove (sourcePath name) (sourcePath other) ∧
      ¬ IsAbove (Text.lower (sourcePath name)) (Text.lower (sourcePath other)) := by
  have letter : 'j' ∈ fileExtension.toList := by decide
  have apart : ∀ {name other : String}, (namespaceOf name).isEmpty = false →
      (namespaceOf other).isEmpty = false → '/' ∉ name.toList → '/' ∉ other.toList →
      ¬ IsAbove (sourcePath name) (sourcePath other) := by
    intro name other packaged packaged' plain plain'
    exact FileEntry.not_isAbove_classPath packaged packaged'
      (FileEntry.plain_parts packaged plain).2 (FileEntry.plain_parts packaged' plain').2
      (by decide) letter (by decide)
  obtain ⟨packaged, plain⟩ := placeable.lower
  obtain ⟨packaged', plain'⟩ := placeable'.lower
  rw [placeable.lower_sourcePath, placeable'.lower_sourcePath]
  exact ⟨apart placeable.packaged placeable'.packaged placeable.noSlash placeable'.noSlash,
    apart packaged packaged' plain plain'⟩

/-! ## Main result -/

/-- A model that was read from a source, whatever objects it was read as, and that has no errors has
a program with two files for each object. No two files have paths that are the same but for letter
case, and no file has a path that leads to a directory of another, with or without regard to letter
case. -/
theorem files_apart {source : Source} {objects : List Model.BusinessObject} {model : DataModel}
    {variant : Variant} (accepted : DataModel.accept source objects = .ok model)
    (noErrors : (Compile.check variant model).hasErrors = false) :
    ∃ program, programOf variant model = .ok program ∧
      (sources program).size = 2 * model.size ∧
      ((sources program).paths.map Text.lower).Nodup ∧
      ∀ path ∈ (sources program).paths, ∀ other ∈ (sources program).paths,
        ¬ IsAbove path other ∧ ¬ IsAbove (Text.lower path) (Text.lower other) := by
  have clean := (Compile.hasErrors_check_eq_false_iff variant).1 noErrors
  obtain ⟨formed, rfl⟩ := Model.accept_eq_ok_iff.1 accepted
  have placeable : ∀ name ∈ generatedNames model, Placeable name := fun name mem =>
    placeable_of_mem_generatedNames clean formed mem
  obtain ⟨program, made⟩ := exists_programOf noErrors
  obtain ⟨-, pairs, walked, items⟩ := programOf_eq_ok_iff.1 made
  have paths : (sources program).paths = (generatedNames model).map sourcePath := by
    rw [paths_sources, Compile.names_program walked items]
    rfl
  refine ⟨program, made, ?_, ?_, ?_⟩
  · have count : (sources program).size = (generatedNames model).length := by
      rw [← List.length_map (f := sourcePath), ← paths, Registry.paths, List.length_map]
      rfl
    rw [count, Compile.length_generatedNames]
  · rw [paths, List.map_map]
    refine List.Nodup.map_on ?_ clean.generatedNames_nodup
    intro name mem other mem' same
    have lowered := (placeable name mem).lower_eq_of_sourcePath (placeable other mem') same
    exact List.inj_on_of_nodup_map clean.lower_generatedNames_nodup mem mem' lowered
  · rw [paths]
    intro path mem other mem'
    obtain ⟨name, listed, rfl⟩ := List.mem_map.1 mem
    obtain ⟨name', listed', rfl⟩ := List.mem_map.1 mem'
    exact (placeable name listed).not_isAbove (placeable name' listed')

/-- A model in which the name of one object is the package of another, whose name ends as that of an
interface. -/
def nested : DataModel where
  items := [⟨"org.acme.Audit", none, [], [], []⟩, ⟨"org.acme.Audit.EntryDAO", none, [], [], []⟩]
  distinct := by decide

theorem files_apart_nested :
    DataModel.accept ⟨"", "bom.toml"⟩ nested.objects = .ok nested ∧
      (Compile.check .server nested).hasErrors = false ∧
      ∃ program, programOf .server nested = .ok program ∧
        (sources program).size = 2 * nested.size ∧
        ((sources program).paths.map Text.lower).Nodup ∧
        ∀ path ∈ (sources program).paths, ∀ other ∈ (sources program).paths,
          ¬ IsAbove path other ∧ ¬ IsAbove (Text.lower path) (Text.lower other) := by
  have unbroken : Model.violations ⟨"", "bom.toml"⟩ nested.objects = [] := by decide +kernel
  have accepted : DataModel.accept ⟨"", "bom.toml"⟩ nested.objects = .ok nested :=
    Model.accept_eq_ok_iff.2 ⟨Model.violations_eq_nil_iff.1 unbroken, rfl⟩
  have noErrors : (Compile.check .server nested).hasErrors = false := by decide +kernel
  exact ⟨accepted, noErrors, files_apart accepted noErrors⟩

end EntityGen.Java
