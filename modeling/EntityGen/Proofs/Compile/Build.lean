/-
  Proofs/Compile/Build.lean --- compilations.

  Source: the specification, section 2 (data flow) and section 7 (everything is found before
  anything is built).

  A compilation stops at the checks if they find an error, and ends well otherwise: building
  adds nothing to the reasons to fail. The program then lists the two classes of each object
  in the order of the model, the entity before its interface.
-/
import EntityGen.Proofs.Compile.Check

set_option autoImplicit false

namespace EntityGen.Compile

open EntityGen.Blueprint (ClassFault ClassSpec Program Variant daoInterface daoName entityClass)
open EntityGen.Model (BusinessObject DataModel)

/-! ## Classes of objects -/

/-- The two classes of an object. -/
def objectClasses (variant : Variant) (object : BusinessObject) :
    Except ClassFault (ClassSpec × ClassSpec) := do
  return (← entityClass variant object, ← daoInterface object)

/-- The classes of several objects, the first of each before its second. -/
def listed (pairs : List (ClassSpec × ClassSpec)) : List ClassSpec :=
  pairs.flatMap fun pair => [pair.1, pair.2]

theorem objectClasses_eq_ok_iff {variant : Variant} {object : BusinessObject}
    {pair : ClassSpec × ClassSpec} :
    objectClasses variant object = .ok pair ↔
      entityClass variant object = .ok pair.1 ∧ daoInterface object = .ok pair.2 := by
  unfold objectClasses
  simp only [bind_eq_ok_iff, pure_eq_ok_iff]
  constructor
  · rintro ⟨entity, made, dao, built, rfl⟩
    exact ⟨made, built⟩
  · rintro ⟨made, built⟩
    exact ⟨pair.1, made, pair.2, built, rfl⟩

/-- Each class is the entity or the interface of an object. -/
theorem exists_of_mem_listed {variant : Variant} {objects : List BusinessObject}
    {pairs : List (ClassSpec × ClassSpec)}
    (made : objects.mapM (objectClasses variant) = .ok pairs) {spec : ClassSpec}
    (mem : spec ∈ listed pairs) :
    ∃ object ∈ objects, entityClass variant object = .ok spec ∨ daoInterface object = .ok spec := by
  obtain ⟨pair, among, which⟩ := List.mem_flatMap.1 mem
  obtain ⟨object, declared, here⟩ := exists_of_mem_mapM made among
  obtain ⟨entity, dao⟩ := objectClasses_eq_ok_iff.1 here
  simp only [List.mem_cons, List.not_mem_nil, or_false] at which
  rcases which with rfl | rfl
  · exact ⟨object, declared, Or.inl entity⟩
  · exact ⟨object, declared, Or.inr dao⟩

/-- Each object has its interface among the classes. -/
theorem exists_dao_mem_listed {variant : Variant} {objects : List BusinessObject}
    {pairs : List (ClassSpec × ClassSpec)}
    (made : objects.mapM (objectClasses variant) = .ok pairs) {object : BusinessObject}
    (mem : object ∈ objects) : ∃ spec ∈ listed pairs, daoInterface object = .ok spec := by
  obtain ⟨pair, among, here⟩ := exists_mem_of_mapM made mem
  refine ⟨pair.2, List.mem_flatMap.2 ⟨pair, among, ?_⟩, (objectClasses_eq_ok_iff.1 here).2⟩
  exact List.mem_cons_of_mem _ List.mem_cons_self

/-- The classes have the names that the objects give them. -/
theorem names_listed {variant : Variant} {objects : List BusinessObject}
    {pairs : List (ClassSpec × ClassSpec)}
    (made : objects.mapM (objectClasses variant) = .ok pairs) :
    (listed pairs).map ClassSpec.qualifiedName =
      objects.flatMap fun object => [object.qualifiedName, daoName object] := by
  have names : (pairs.map fun pair => [pair.1.qualifiedName, pair.2.qualifiedName]) =
      objects.map fun object => [object.qualifiedName, daoName object] := by
    refine map_eq_map_of_mapM made fun object pair here => ?_
    obtain ⟨entity, dao⟩ := objectClasses_eq_ok_iff.1 here
    rw [Blueprint.qualifiedName_of_entityClass entity, Blueprint.qualifiedName_of_daoInterface dao]
  rw [listed, List.map_flatMap, List.flatMap_def, List.flatMap_def, ← names]
  rfl

/-- A program with the classes of all objects has the names of all generated types. -/
theorem names_program {variant : Variant} {model : DataModel} {pairs : List (ClassSpec × ClassSpec)}
    (made : model.objects.mapM (objectClasses variant) = .ok pairs) {program : Program}
    (items : program.items = listed pairs) : program.names = generatedNames model := by
  rw [Roster.names, items, names_listed made, generatedNames]

/-- Every object of a clean model has its two classes. -/
theorem Clean.exists_objectClasses {model : DataModel} (clean : Clean model) (variant : Variant) :
    ∃ pairs, model.objects.mapM (objectClasses variant) = .ok pairs := by
  refine exists_mapM_eq_ok (objectClasses variant) fun object mem => ?_
  have free := clean.typeNames object mem
  have declared := clean.constraintsDeclared mem
  obtain ⟨entity, made⟩ := Blueprint.exists_entityClass_eq_ok variant free declared
  obtain ⟨dao, built⟩ :=
    Blueprint.exists_daoInterface_eq_ok free declared (clean.outlines object mem)
  exact ⟨(entity, dao), objectClasses_eq_ok_iff.2 ⟨made, built⟩⟩

/-! ## Programs -/

/-- A class is added last if its name is not taken. -/
theorem add_eq_ok_iff {program more : Program} {spec : ClassSpec} :
    Program.add program spec = .ok more ↔
      spec.qualifiedName ∉ program.names ∧ more.items = program.items ++ [spec] := by
  rw [← Roster.enroll?_eq_some_iff]
  unfold Program.add
  cases program.enroll? spec with
  | none => simp
  | some enrolled => simp

theorem exists_add_eq_ok {program : Program} {spec : ClassSpec}
    (fresh : spec.qualifiedName ∉ program.names) :
    ∃ more, Program.add program spec = .ok more ∧ more.items = program.items ++ [spec] := by
  obtain ⟨more, enrolled⟩ := Option.ne_none_iff_exists'.1
    (mt Roster.enroll?_eq_none_iff.1 fresh)
  have items := (Roster.enroll?_eq_some_iff.1 enrolled).2
  exact ⟨more, add_eq_ok_iff.2 ⟨fresh, items⟩, items⟩

/-- The classes of an object are added last if their names are not taken. -/
theorem exists_addObject_eq_ok {variant : Variant} {program : Program} {object : BusinessObject}
    {pair : ClassSpec × ClassSpec} (made : objectClasses variant object = .ok pair)
    (apart : (program.names ++ [pair.1.qualifiedName, pair.2.qualifiedName]).Nodup) :
    ∃ more, addObject variant program object = .ok more ∧
      more.items = program.items ++ [pair.1, pair.2] := by
  obtain ⟨entity, dao⟩ := objectClasses_eq_ok_iff.1 made
  obtain ⟨-, distinct, fresh⟩ := List.nodup_append.1 apart
  have firstFresh : pair.1.qualifiedName ∉ program.names :=
    fun taken => fresh _ taken _ List.mem_cons_self rfl
  obtain ⟨withEntity, first, firstItems⟩ := exists_add_eq_ok firstFresh
  -- The name of the interface must differ from the old names and from that of the entity.
  have secondFresh : pair.2.qualifiedName ∉ withEntity.names := by
    rw [Roster.names, firstItems, List.map_append, List.mem_append, List.map_singleton,
      List.mem_singleton]
    rintro (taken | same)
    · exact fresh _ taken _ (List.mem_cons_of_mem _ List.mem_cons_self) rfl
    · simp [same] at distinct
  obtain ⟨withBoth, second, secondItems⟩ := exists_add_eq_ok secondFresh
  refine ⟨withBoth, ?_, ?_⟩
  · simp only [addObject, bind_eq_ok_iff, mapError_eq_ok_iff]
    exact ⟨pair.1, entity, pair.2, dao, withEntity, first, second⟩
  · rw [secondItems, firstItems, List.append_assoc, List.singleton_append]

/-- Building goes through all objects if the classes have pairwise distinct names. -/
theorem exists_foldlM_addObject_eq_ok {variant : Variant} {objects : List BusinessObject}
    {pairs : List (ClassSpec × ClassSpec)}
    (made : objects.mapM (objectClasses variant) = .ok pairs) {program : Program}
    (apart : (program.names ++ (listed pairs).map ClassSpec.qualifiedName).Nodup) :
    ∃ more, objects.foldlM (addObject variant) program = .ok more ∧
      more.items = program.items ++ listed pairs := by
  have walked := mapM_eq_ok_iff_forall₂.1 made
  clear made
  induction walked generalizing program with
  | nil => exact ⟨program, rfl, (List.append_nil _).symm⟩
  | @cons object pair objects pairs here _ ih =>
    have split : program.names ++ (listed (pair :: pairs)).map ClassSpec.qualifiedName =
        program.names ++ [pair.1.qualifiedName, pair.2.qualifiedName] ++
          (listed pairs).map ClassSpec.qualifiedName := by
      simp [listed]
    rw [split] at apart
    obtain ⟨next, added, items⟩ := exists_addObject_eq_ok here (List.nodup_append.1 apart).1
    have names : next.names = program.names ++ [pair.1.qualifiedName, pair.2.qualifiedName] := by
      rw [Roster.names, items, List.map_append]
      rfl
    obtain ⟨more, folded, all⟩ := ih (names ▸ apart)
    refine ⟨more, ?_, ?_⟩
    · rw [List.foldlM_cons, bind_eq_ok_iff]
      exact ⟨next, added, folded⟩
    · rw [all, items, listed, listed, List.flatMap_cons, List.append_assoc]

/-- Building never fails on a clean model. -/
theorem Clean.exists_buildProgram {model : DataModel} (clean : Clean model) (variant : Variant) :
    ∃ pairs program, model.objects.mapM (objectClasses variant) = .ok pairs ∧
      buildProgram variant model = .ok program ∧ program.items = listed pairs := by
  obtain ⟨pairs, made⟩ := clean.exists_objectClasses variant
  have apart : ((Roster.empty : Program).names ++
      (listed pairs).map ClassSpec.qualifiedName).Nodup := by
    rw [names_listed made]
    exact clean.generatedNames_nodup
  obtain ⟨program, built, items⟩ := exists_foldlM_addObject_eq_ok made apart
  exact ⟨pairs, program, made, built, items⟩

/-! ## Compilations -/

/-- The next phase takes over from one that does not fail. -/
theorem runPhases_cons_of_ok {phase : Phase} {context next : Context} (rest : List Phase)
    (done : phase.run context = ⟨next, none⟩) :
    runPhases (phase :: rest) context = runPhases rest next := by
  rw [runPhases, done]

/-- Nothing runs after a phase that fails. -/
theorem runPhases_cons_of_fault {phase : Phase} {context next : Context} {fault : CompileFault}
    (rest : List Phase) (failed : phase.run context = ⟨next, some fault⟩) :
    runPhases (phase :: rest) context = ⟨next, some fault⟩ := by
  rw [runPhases, failed]

/-- The checks come first, and they leave the same state as they do alone. -/
theorem validation_run_start (variant : Variant) (model : DataModel) :
    (validation Lint.suite).run (Context.start model variant) =
      ⟨check variant model, if (check variant model).hasErrors then
        some (.rejected (check variant model).errors) else none⟩ :=
  rfl

/-- A model with errors is rejected, whatever is added. -/
theorem compile_of_hasErrors {variant : Variant} {added : List Phase} {model : DataModel}
    (errors : (check variant model).hasErrors = true) :
    compile variant added model = .error (.rejected (check variant model).errors) := by
  have checked := validation_run_start variant model
  rw [errors, if_pos rfl] at checked
  rw [compile, runPhases_cons_of_fault _ checked]

/-- After checks without errors comes building, and then nothing. -/
theorem compile_of_not_hasErrors {variant : Variant} {model : DataModel}
    (noErrors : (check variant model).hasErrors = false) :
    compile variant [] model =
      (buildProgram variant model).map fun program =>
        { check variant model with program := some program } := by
  have checked := validation_run_start variant model
  rw [noErrors, if_neg Bool.false_ne_true] at checked
  have model_check : (check variant model).model = model := rfl
  have variant_check : (check variant model).variant = variant := rfl
  rw [compile, runPhases_cons_of_ok _ checked, runPhases, building]
  simp only [model_check, variant_check]
  cases buildProgram variant model with
  | ok program => rfl
  | error fault => rfl

/-- A compilation ends well exactly for clean models, and then leaves the findings of the checks and
the program with the classes of all objects. -/
theorem compile_eq_ok_iff {variant : Variant} {model : DataModel} {context : Context} :
    compile variant [] model = .ok context ↔
      Clean model ∧ ∃ pairs program, model.objects.mapM (objectClasses variant) = .ok pairs ∧
        program.items = listed pairs ∧
        context = { check variant model with program := some program } := by
  constructor
  · intro compiled
    have noErrors : (check variant model).hasErrors = false := by
      by_contra errors
      rw [compile_of_hasErrors (by simpa using errors)] at compiled
      cases compiled
    have clean := (hasErrors_check_eq_false_iff variant).1 noErrors
    obtain ⟨pairs, program, made, built, items⟩ := clean.exists_buildProgram variant
    rw [compile_of_not_hasErrors noErrors, built] at compiled
    cases compiled
    exact ⟨clean, pairs, program, made, items, rfl⟩
  · rintro ⟨clean, pairs, program, made, items, rfl⟩
    obtain ⟨pairs', program', made', built, items'⟩ := clean.exists_buildProgram variant
    have same : program' = program := by
      cases made.symm.trans made'
      cases program
      cases program'
      cases items
      cases items'
      rfl
    rw [compile_of_not_hasErrors ((hasErrors_check_eq_false_iff variant).2 clean), built, same]
    rfl

/-- A clean model is compiled for each variant. -/
theorem Clean.exists_compile {model : DataModel} (clean : Clean model) (variant : Variant) :
    ∃ pairs program, model.objects.mapM (objectClasses variant) = .ok pairs ∧
      program.items = listed pairs ∧
      compile variant [] model = .ok { check variant model with program := some program } := by
  obtain ⟨pairs, program, made, -, items⟩ := clean.exists_buildProgram variant
  exact ⟨pairs, program, made, items, compile_eq_ok_iff.2 ⟨clean, pairs, program, made, items, rfl⟩⟩

end EntityGen.Compile
