/-
  Proofs/Java/Independence.lean --- objects on their own.

  Source: the specification, section 5: no state is shared between business objects.

  The files of a business object depend on the object and the variant alone: whatever else
  is in a model and in whichever order, they have the same paths and the same texts. As a
  map from paths to files a registry is independent of the order of the objects exactly if
  no path occurs twice. No check ensures that: a slash in a name that no text was read for
  may stand where a dot does in another.
-/
import EntityGen.Java.Generator
import EntityGen.Proofs.Compile.Build
import EntityGen.Proofs.Files.Registry
import EntityGen.Proofs.Java.Platform
import EntityGen.Proofs.Java.Stretches

set_option autoImplicit false

namespace EntityGen.Java

open EntityGen.Blueprint (ClassSpec Program Variant daoInterface daoName entityClass)
open EntityGen.Compile (Clean CompileFault generatedNames listed objectClasses)
open EntityGen.Files (FileEntry Registry)
open EntityGen.Model (BusinessObject DataModel)
open EntityGen.Naming (namespaceOf simpleNameOf)

variable {variant : Variant}

/-! ## Programs of models -/

/-- A model has a program exactly if it is clean; the program lists the classes of its objects. -/
theorem programOf_eq_ok_iff {model : DataModel} {program : Program} :
    programOf variant model = .ok program ↔
      Clean model ∧ ∃ pairs, model.objects.mapM (objectClasses variant) = .ok pairs ∧
        program.items = listed pairs := by
  unfold programOf
  rw [bind_eq_ok_iff]
  constructor
  · rintro ⟨context, compiled, built⟩
    obtain ⟨clean, pairs, own, made, items, rfl⟩ := Compile.compile_eq_ok_iff.1 compiled
    have same : own = program := Except.ok.inj built
    exact ⟨clean, pairs, made, same ▸ items⟩
  · rintro ⟨clean, pairs, made, items⟩
    exact ⟨_, Compile.compile_eq_ok_iff.2 ⟨clean, pairs, program, made, items, rfl⟩, rfl⟩

/-- A model without errors has a program. -/
theorem exists_programOf {model : DataModel}
    (noErrors : (Compile.check variant model).hasErrors = false) :
    ∃ program, programOf variant model = .ok program := by
  have clean := (Compile.hasErrors_check_eq_false_iff variant).1 noErrors
  obtain ⟨pairs, program, walked, -, items⟩ := clean.exists_buildProgram variant
  exact ⟨program, programOf_eq_ok_iff.2 ⟨clean, pairs, walked, items⟩⟩

/-- A model with the same objects in another order has a program with the same classes in another
order. -/
theorem exists_programOf_perm {model other : DataModel} {program : Program}
    (made : programOf variant model = .ok program) (perm : other.objects.Perm model.objects) :
    ∃ permuted, programOf variant other = .ok permuted ∧ permuted.items.Perm program.items := by
  obtain ⟨clean, pairs, walked, items⟩ := programOf_eq_ok_iff.1 made
  have clean' := clean.perm perm
  obtain ⟨pairs', permuted, again, -, items'⟩ := clean'.exists_buildProgram variant
  refine ⟨permuted, programOf_eq_ok_iff.2 ⟨clean', pairs', again, items'⟩, ?_⟩
  rw [items, items']
  exact (perm_of_mapM walked again perm).flatMap_right _

theorem perm_sources {program permuted : Program} (perm : permuted.items.Perm program.items) :
    (sources permuted).entries.Perm (sources program).entries :=
  perm.map classFile

/-! ## Files of objects -/

/-- The two files of an object, that of the entity first. -/
def objectFiles (variant : Variant) (object : BusinessObject) :
    Except Blueprint.ClassFault (List FileEntry) :=
  (objectClasses variant object).map fun pair => [classFile pair.1, classFile pair.2]

/-- The files of an object stand one after the other among those of a model with it. -/
theorem exists_objectFiles {model : DataModel} {program : Program}
    (made : programOf variant model = .ok program) {object : BusinessObject}
    (mem : object ∈ model.objects) :
    ∃ files, objectFiles variant object = .ok files ∧ files <:+: (sources program).entries := by
  obtain ⟨-, pairs, walked, items⟩ := programOf_eq_ok_iff.1 made
  obtain ⟨pair, among, own⟩ := exists_mem_of_mapM walked mem
  refine ⟨[classFile pair.1, classFile pair.2], by rw [objectFiles, own]; rfl, ?_⟩
  obtain ⟨before, after, split⟩ := List.append_of_mem among
  refine ⟨(listed before).map classFile, (listed after).map classFile, ?_⟩
  simp [sources, items, split, listed]

/-! ## Paths -/

/-- A generated type of a clean model has a package. -/
theorem packaged_of_mem_generatedNames {model : DataModel} (clean : Clean model) {name : String}
    (mem : name ∈ generatedNames model) : (namespaceOf name).isEmpty = false := by
  obtain ⟨object, declared, rfl | rfl⟩ := Compile.mem_generatedNames.1 mem
  · exact packaged_of_free (clean.typeNames object declared)
  · have free := clean.typeNames object declared
    rw [namespaceOf_daoName free]
    exact packaged_of_free free

/-- A class of the program of a model has a package. -/
theorem packaged_of_mem {model : DataModel} {program : Program}
    (made : programOf variant model = .ok program) {spec : ClassSpec}
    (mem : spec ∈ program.items) : (namespaceOf spec.qualifiedName).isEmpty = false := by
  obtain ⟨clean, pairs, walked, items⟩ := programOf_eq_ok_iff.1 made
  apply packaged_of_mem_generatedNames clean
  rw [← Compile.names_program walked items]
  exact List.mem_map_of_mem mem

/-- A file with a package begins with it. -/
theorem exists_classText_eq {spec : ClassSpec}
    (packaged : (namespaceOf spec.qualifiedName).isEmpty = false) :
    ∃ rest, (classText spec).toList =
      "package ".toList ++ ((namespaceOf spec.qualifiedName).toList ++ ';' :: rest) := by
  have named : spec.packageName.isEmpty = false := packaged
  rw [classText, classUnit_eq_settled, text_compilationUnit, named, if_neg Bool.false_ne_true]
  simp only [String.toList_append, List.append_assoc]
  exact ⟨_, rfl⟩

/-- Types with one path and one text are one. -/
theorem qualifiedName_eq_of_classFile_eq {first second : ClassSpec}
    (packaged : (namespaceOf first.qualifiedName).isEmpty = false)
    (packaged' : (namespaceOf second.qualifiedName).isEmpty = false)
    (same : classFile first = classFile second) : first.qualifiedName = second.qualifiedName := by
  have path : FileEntry.classPath first.qualifiedName fileExtension =
      FileEntry.classPath second.qualifiedName fileExtension := congrArg FileEntry.path same
  have text : classText first = classText second := congrArg FileEntry.content same
  have paths := congrArg String.toList path
  rw [FileEntry.toList_classPath packaged, FileEntry.toList_classPath packaged'] at paths
  obtain ⟨rest, begins⟩ := exists_classText_eq packaged
  obtain ⟨rest', begins'⟩ := exists_classText_eq packaged'
  rw [text, begins'] at begins
  have texts := List.append_cancel_left begins
  have package := String.toList_inj.1 (FileEntry.eq_of_slashed_of_semicolon paths texts.symm)
  exact FileEntry.eq_of_classPath_of_namespaceOf packaged packaged' path package

/-- The files of an entity and of its interface have different paths. -/
theorem classPath_daoName_ne {object : BusinessObject}
    (free : Blueprint.typeNameFault? object.qualifiedName = none) :
    FileEntry.classPath object.qualifiedName fileExtension ≠
      FileEntry.classPath (daoName object) fileExtension := by
  intro same
  have packaged := packaged_of_free free
  have package := namespaceOf_daoName free
  have packaged' : (namespaceOf (daoName object)).isEmpty = false := by rwa [package]
  have name := FileEntry.eq_of_classPath_of_namespaceOf packaged packaged' same package.symm
  have longer := congrArg String.length name
  have empty : Blueprint.daoSuffix = "" := by simpa [daoName, String.length_append] using longer
  exact absurd empty (by decide)

/-! ## Orders -/

/-- Any object of a model can be put first. -/
theorem exists_first {model : DataModel} {object : BusinessObject}
    (mem : object ∈ model.objects) :
    ∃ (other : DataModel) (rest : List BusinessObject),
      other.objects = object :: rest ∧ other.objects.Perm model.objects := by
  obtain ⟨before, after, split⟩ := List.append_of_mem mem
  have perm : (object :: (before ++ after)).Perm model.objects := by
    rw [split]
    exact List.perm_middle.symm
  have distinct := (perm.map BusinessObject.qualifiedName).nodup_iff.2 model.distinct
  exact ⟨⟨object :: (before ++ after), distinct⟩, before ++ after, rfl, perm⟩

/-- The paths of the first object stand for its own files. -/
theorem get?_of_first {model : DataModel} {program : Program}
    (made : programOf variant model = .ok program) {object : BusinessObject}
    {rest : List BusinessObject} (first : model.objects = object :: rest) {spec : ClassSpec}
    (own : entityClass variant object = .ok spec ∨ daoInterface object = .ok spec) :
    (sources program).get? (classFile spec).path = some (classFile spec) := by
  obtain ⟨clean, pairs, walked, items⟩ := programOf_eq_ok_iff.1 made
  have free := clean.typeNames object (by rw [first]; exact List.mem_cons_self)
  rw [first, mapM_eq_ok_iff_forall₂, List.forall₂_cons_left_iff] at walked
  obtain ⟨pair, others, here, -, rfl⟩ := walked
  obtain ⟨entity, dao⟩ := Compile.objectClasses_eq_ok_iff.1 here
  have files : (sources program).entries =
      classFile pair.1 :: classFile pair.2 :: (listed others).map classFile := by
    rw [sources, items]
    rfl
  rw [Registry.get?, files]
  rcases own with isEntity | isDao
  · cases entity.symm.trans isEntity
    exact List.find?_cons_of_pos (by simp)
  · cases dao.symm.trans isDao
    have apart : (classFile pair.1).path ≠ (classFile pair.2).path := by
      intro same
      apply classPath_daoName_ne free
      rw [← Blueprint.qualifiedName_of_entityClass entity,
        ← Blueprint.qualifiedName_of_daoInterface dao]
      exact same
    rw [List.find?_cons_of_neg (by simpa using apart)]
    exact List.find?_cons_of_pos (by simp)

/-- The registry of a model maps paths to the same files in every order of the objects. -/
def OrderFree (variant : Variant) (model : DataModel) (program : Program) : Prop :=
  ∀ other : DataModel, other.objects.Perm model.objects →
    ∀ permuted, programOf variant other = .ok permuted →
      ∀ path, (sources permuted).get? path = (sources program).get? path

/-- If the order does not matter then no two types share a path: with the object of either first the
path stands for its file, and the files differ. -/
theorem OrderFree.nodup_paths {model : DataModel} {program : Program}
    (made : programOf variant model = .ok program) (orderFree : OrderFree variant model program) :
    (sources program).paths.Nodup := by
  obtain ⟨clean, pairs, walked, items⟩ := programOf_eq_ok_iff.1 made
  have found : ∀ spec ∈ program.items,
      (sources program).get? (classFile spec).path = some (classFile spec) := by
    intro spec mem
    rw [items] at mem
    obtain ⟨object, declared, own⟩ := Compile.exists_of_mem_listed walked mem
    obtain ⟨other, rest, first, perm⟩ := exists_first declared
    obtain ⟨permuted, again, -⟩ := exists_programOf_perm made perm
    rw [← orderFree other perm permuted again]
    exact get?_of_first again first own
  have apart : ∀ first ∈ program.items, ∀ second ∈ program.items,
      (classFile first).path = (classFile second).path → first = second := by
    intro first mem second mem' same
    have one := found first mem
    rw [same, found second mem'] at one
    have name := qualifiedName_eq_of_classFile_eq (packaged_of_mem made mem)
      (packaged_of_mem made mem') (Option.some.inj one).symm
    exact List.inj_on_of_nodup_map program.distinct mem mem' name
  have classes : program.items.Nodup := List.Nodup.of_map _ program.distinct
  have paths : (sources program).paths =
      program.items.map fun spec => (classFile spec).path := by
    rw [Registry.paths, sources, List.map_map]
    rfl
  rw [paths]
  exact List.Nodup.map_on apart classes

/-- If no path occurs twice then the order does not matter. -/
theorem orderFree_of_nodup {model : DataModel} {program : Program}
    (made : programOf variant model = .ok program) (distinct : (sources program).paths.Nodup) :
    OrderFree variant model program := by
  intro other perm permuted again path
  obtain ⟨own, made', items⟩ := exists_programOf_perm made perm
  cases made'.symm.trans again
  exact Registry.get?_eq_of_perm (perm_sources items) distinct path

/-- The paths follow from the names of the classes. -/
theorem paths_sources (program : Program) :
    (sources program).paths =
      program.names.map fun name => FileEntry.classPath name fileExtension := by
  rw [Registry.paths, sources, Roster.names, List.map_map, List.map_map]
  rfl

/-- Without slashes in the names of objects no path occurs twice. -/
theorem nodup_paths_of_plain {model : DataModel} {program : Program}
    (made : programOf variant model = .ok program)
    (plain : ∀ object ∈ model.objects, '/' ∉ object.qualifiedName.toList) :
    (sources program).paths.Nodup := by
  obtain ⟨clean, pairs, walked, items⟩ := programOf_eq_ok_iff.1 made
  have names := Compile.names_program walked items
  have plainNames : ∀ name ∈ generatedNames model, '/' ∉ name.toList := by
    intro name mem
    obtain ⟨object, listed, rfl | rfl⟩ := Compile.mem_generatedNames.1 mem
    · exact plain object listed
    · have suffix : '/' ∉ Blueprint.daoSuffix.toList := by decide
      rw [daoName, String.toList_append, List.mem_append, not_or]
      exact ⟨plain object listed, suffix⟩
  have plainSpecs : ∀ spec ∈ program.items, '/' ∉ spec.qualifiedName.toList := by
    intro spec mem
    apply plainNames
    rw [← names]
    exact List.mem_map.2 ⟨spec, mem, rfl⟩
  rw [paths_sources]
  refine List.Nodup.map_on ?_ program.distinct
  intro first mem second mem' same
  obtain ⟨one, listed, rfl⟩ := List.mem_map.1 mem
  obtain ⟨two, listed', rfl⟩ := List.mem_map.1 mem'
  exact FileEntry.eq_of_classPath_of_plain (packaged_of_mem made listed)
    (packaged_of_mem made listed') (plainSpecs one listed) (plainSpecs two listed') (by decide) same

/-! ## Main result -/

/-- A model with a program has one in every order of its objects, with the same files. A path stands
for the same file in every order exactly if no path occurs twice, which is so if no object has a
slash in its name. The files of an object are the same in every model with it. -/
theorem objects_independent_iff {model : DataModel} {program : Program}
    (made : programOf variant model = .ok program) :
    (∀ other : DataModel, other.objects.Perm model.objects →
      ∃ permuted, programOf variant other = .ok permuted ∧
        (sources permuted).entries.Perm (sources program).entries) ∧
    (OrderFree variant model program ↔ (sources program).paths.Nodup) ∧
    ((∀ object ∈ model.objects, '/' ∉ object.qualifiedName.toList) →
      OrderFree variant model program) ∧
    ∀ (other : DataModel) (theirs : Program), programOf variant other = .ok theirs →
      ∀ object ∈ model.objects, object ∈ other.objects →
        ∃ files, objectFiles variant object = .ok files ∧
          files <:+: (sources program).entries ∧ files <:+: (sources theirs).entries := by
  refine ⟨fun other perm => ?_, ⟨fun free => free.nodup_paths made, orderFree_of_nodup made⟩,
    fun plain => orderFree_of_nodup made (nodup_paths_of_plain made plain),
    fun other theirs made' object mem mem' => ?_⟩
  · obtain ⟨permuted, again, items⟩ := exists_programOf_perm made perm
    exact ⟨permuted, again, perm_sources items⟩
  · obtain ⟨files, own, here⟩ := exists_objectFiles made mem
    obtain ⟨files', own', there⟩ := exists_objectFiles made' mem'
    cases own.symm.trans own'
    exact ⟨files, own, here, there⟩

/-- A model with two objects whose names differ by a slash in the place of a dot. -/
def slashed : DataModel where
  items := [⟨"a/b.C", none, [], [], []⟩, ⟨"a.b.C", none, [], [], []⟩]
  distinct := by decide

/-- The same objects in the other order. -/
def slashedLast : DataModel where
  items := [⟨"a.b.C", none, [], [], []⟩, ⟨"a/b.C", none, [], [], []⟩]
  distinct := by decide

theorem objects_independent_slashed :
    ∃ program, programOf .server slashed = .ok program ∧
      (∀ other : DataModel, other.objects.Perm slashed.objects →
        ∃ permuted, programOf .server other = .ok permuted ∧
          (sources permuted).entries.Perm (sources program).entries) ∧
      (OrderFree .server slashed program ↔ (sources program).paths.Nodup) ∧
      ((∀ object ∈ slashed.objects, '/' ∉ object.qualifiedName.toList) →
        OrderFree .server slashed program) ∧
      ∀ (other : DataModel) (theirs : Program), programOf .server other = .ok theirs →
        ∀ object ∈ slashed.objects, object ∈ other.objects →
          ∃ files, objectFiles .server object = .ok files ∧
            files <:+: (sources program).entries ∧ files <:+: (sources theirs).entries := by
  have clean := (Compile.hasErrors_check_eq_false_iff .server).1
    (by decide +kernel : (Compile.check .server slashed).hasErrors = false)
  obtain ⟨pairs, program, walked, -, items⟩ := clean.exists_buildProgram .server
  have made := programOf_eq_ok_iff.2 ⟨clean, pairs, walked, items⟩
  exact ⟨program, made, objects_independent_iff made⟩

/-- The path of both objects stands for the file of the one that comes first. -/
theorem order_decides_slashed :
    slashedLast.objects.Perm slashed.objects ∧
      ∃ program permuted, programOf .client slashed = .ok program ∧
        programOf .client slashedLast = .ok permuted ∧
        (sources permuted).get? "a/b/C.java" ≠ (sources program).get? "a/b/C.java" := by
  have perm : slashedLast.objects.Perm slashed.objects := List.Perm.swap _ _ _
  have clean := (Compile.hasErrors_check_eq_false_iff .client).1
    (by decide +kernel : (Compile.check .client slashed).hasErrors = false)
  obtain ⟨pairs, program, walked, -, items⟩ := clean.exists_buildProgram .client
  have made := programOf_eq_ok_iff.2 ⟨clean, pairs, walked, items⟩
  obtain ⟨permuted, again, -⟩ := exists_programOf_perm made perm
  refine ⟨perm, program, permuted, made, again, fun same => ?_⟩
  have slashMem : ⟨"a/b.C", none, [], [], []⟩ ∈ slashed.objects := List.mem_cons_self
  have dotMem : ⟨"a.b.C", none, [], [], []⟩ ∈ slashed.objects := by decide
  obtain ⟨slash, isSlash⟩ := Blueprint.exists_entityClass_eq_ok .client
    (clean.typeNames _ slashMem) (clean.constraintsDeclared slashMem)
  obtain ⟨dot, isDot⟩ := Blueprint.exists_entityClass_eq_ok .client
    (clean.typeNames _ dotMem) (clean.constraintsDeclared dotMem)
  have slashName := Blueprint.qualifiedName_of_entityClass isSlash
  have dotName := Blueprint.qualifiedName_of_entityClass isDot
  have slashPath : (classFile slash).path = "a/b/C.java" := by
    have path : FileEntry.classPath "a/b.C" fileExtension = "a/b/C.java" := by decide
    rw [classFile, slashName]
    exact path
  have dotPath : (classFile dot).path = "a/b/C.java" := by
    have path : FileEntry.classPath "a.b.C" fileExtension = "a/b/C.java" := by decide
    rw [classFile, dotName]
    exact path
  have first := get?_of_first made rfl (Or.inl isSlash)
  have last := get?_of_first again rfl (Or.inl isDot)
  rw [slashPath] at first
  rw [dotPath] at last
  rw [first, last] at same
  have names := qualifiedName_eq_of_classFile_eq (by rw [dotName]; decide)
    (by rw [slashName]; decide) (Option.some.inj same)
  rw [dotName, slashName] at names
  exact absurd names (by decide)

end EntityGen.Java
