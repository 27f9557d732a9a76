/-
  Proofs/Blueprint/Dao.lean --- when access interfaces can be made.

  Source: the specification, section 4.4: the methods in their order, and the faults that
  keep them from being made.

  The interface of an object is told twice: as an outline of names, and as methods. Wherever
  the methods can be made, their names and those of their parameters are the outline, so
  that repetitions may be looked for in either. The interface is made exactly if the name of
  the object is free, its constraints list declared fields, and nothing in the outline
  repeats.
-/
import EntityGen.Blueprint.Dao
import EntityGen.Proofs.Blueprint.Entity

set_option autoImplicit false

namespace EntityGen.Blueprint

open EntityGen.Model (BusinessObject Field Query UniqueConstraint)

/-! ## Repetitions -/

/-- No name is met twice exactly if the names are pairwise distinct and none was met before. -/
theorem firstRepeated_eq_none_iff {before names : List String} :
    firstRepeated before names = none ↔ names.Nodup ∧ ∀ name ∈ names, name ∉ before := by
  induction names generalizing before with
  | nil => simp [firstRepeated]
  | cons name rest ih =>
    unfold firstRepeated
    split
    · rename_i met
      have old : name ∈ before := by simpa using met
      simp [old]
    · rename_i new
      have fresh : name ∉ before := by simpa using new
      rw [ih, List.nodup_cons, List.forall_mem_cons]
      constructor
      · rintro ⟨apart, later⟩
        refine ⟨⟨fun again => later name again List.mem_cons_self, apart⟩, fresh, ?_⟩
        exact fun other mem old => later other mem (List.mem_cons_of_mem name old)
      · rintro ⟨⟨once, apart⟩, -, later⟩
        refine ⟨apart, fun other mem old => ?_⟩
        rcases List.mem_cons.1 old with rfl | older
        · exact once mem
        · exact later other mem older

/-- No name is met twice exactly if the names are pairwise distinct. -/
theorem firstRepeated_nil_eq_none_iff {names : List String} :
    firstRepeated [] names = none ↔ names.Nodup := by
  simp [firstRepeated_eq_none_iff]

/-- The name that is met twice occurs twice. -/
theorem two_le_count_of_firstRepeated {before names : List String} {name : String}
    (met : firstRepeated before names = some name) :
    name ∈ names ∧ 2 ≤ before.count name + names.count name := by
  induction names generalizing before with
  | nil => cases met
  | cons first rest ih =>
    unfold firstRepeated at met
    split at met
    · rename_i old
      cases met
      have earlier : 0 < before.count name := List.count_pos_iff.2 (by simpa using old)
      refine ⟨List.mem_cons_self, ?_⟩
      rw [List.count_cons_self]
      omega
    · obtain ⟨later, twice⟩ := ih met
      refine ⟨List.mem_cons_of_mem first later, ?_⟩
      rw [List.count_cons] at twice ⊢
      omega

/-- Where names repeat, one that occurs twice is met first. -/
theorem exists_firstRepeated {names : List String} (repeating : ¬ names.Nodup) :
    ∃ name, firstRepeated [] names = some name ∧ 2 ≤ names.count name := by
  obtain ⟨name, met⟩ := Option.ne_none_iff_exists'.1
    (mt firstRepeated_nil_eq_none_iff.1 repeating)
  have twice := (two_le_count_of_firstRepeated met).2
  rw [List.count_nil, Nat.zero_add] at twice
  exact ⟨name, met, twice⟩

theorem checkMethodNames_eq_ok_iff {dao : String} {methods : List Method} :
    checkMethodNames dao methods = .ok () ↔ (methods.map Method.name).Nodup := by
  rw [← firstRepeated_nil_eq_none_iff]
  unfold checkMethodNames
  cases firstRepeated [] (methods.map Method.name) with
  | none => simp
  | some method => simp

theorem checkParameterNames_eq_ok_iff {dao : String} {method : Method} :
    checkParameterNames dao method = .ok () ↔ method.parameterNames.Nodup := by
  rw [← firstRepeated_nil_eq_none_iff]
  unfold checkParameterNames
  cases firstRepeated [] method.parameterNames with
  | none => simp
  | some parameter => simp

/-! ## Methods -/

/-- What the outline says of a method. -/
def Method.outline (method : Method) : String × List String :=
  (method.name, method.parameterNames)

/-- A constraint has a parameter for each declared field that it lists. -/
theorem finderParameter_eq_ok_iff {object : BusinessObject} {constraint : UniqueConstraint}
    {name : String} {parameter : MethodParameter} :
    finderParameter object constraint name = .ok parameter ↔
      ∃ field, object.field? name = some field ∧ parameter = ⟨name, memberType field.type⟩ := by
  unfold finderParameter
  cases object.field? name with
  | none => simp
  | some field => simp [eq_comm]

/-- The parameters of a finder have the names that its constraint lists. -/
theorem outline_of_constraintFinder {object : BusinessObject} {constraint : UniqueConstraint}
    {finder : Method} (made : constraintFinder object constraint = .ok finder) :
    finder.outline = (finderName constraint.fields, constraint.fields) := by
  unfold constraintFinder at made
  obtain ⟨parameters, walked, whole⟩ := bind_eq_ok_iff.1 made
  have names : parameters.map MethodParameter.name = constraint.fields.map id := by
    refine map_eq_map_of_mapM walked fun name parameter here => ?_
    obtain ⟨field, -, rfl⟩ := finderParameter_eq_ok_iff.1 here
    rfl
  rw [← pure_eq_ok_iff.1 whole, Method.outline, Method.parameterNames, names, List.map_id]

theorem exists_constraintFinder_eq_ok {object : BusinessObject} {constraint : UniqueConstraint}
    (declared : ∀ field ∈ constraint.fields, (object.field? field).isSome) :
    ∃ finder, constraintFinder object constraint = .ok finder := by
  obtain ⟨parameters, walked⟩ :=
    exists_mapM_eq_ok (finderParameter object constraint) fun name listed => by
      obtain ⟨field, found⟩ := Option.isSome_iff_exists.1 (declared name listed)
      exact ⟨_, finderParameter_eq_ok_iff.2 ⟨field, found, rfl⟩⟩
  exact ⟨_, bind_eq_ok_iff.2 ⟨parameters, walked, rfl⟩⟩

/-- The methods are the standard ones, one for each constraint, and one for each query. -/
theorem daoMethods_eq_ok_iff {object : BusinessObject} {methods : List Method} :
    daoMethods object = .ok methods ↔
      ∃ finders, object.uniqueConstraints.mapM (constraintFinder object) = .ok finders ∧
        methods = standardFinders object ++ finders ++
          object.queries.map fun query => (Signature.ofQuery query object).method := by
  unfold daoMethods
  simp only [bind_eq_ok_iff, pure_eq_ok_iff, eq_comm (a := methods)]

theorem outline_method (signature : Signature) :
    signature.method.outline = (signature.name, signature.parameters.map MethodParameter.name) :=
  rfl

/-- Wherever the methods can be made, the outline tells their names and parameters. -/
theorem outline_of_daoMethods {object : BusinessObject} {methods : List Method}
    (made : daoMethods object = .ok methods) :
    methods.map Method.outline = daoOutline object := by
  obtain ⟨finders, walked, rfl⟩ := daoMethods_eq_ok_iff.1 made
  have outlined : finders.map Method.outline = object.uniqueConstraints.map fun constraint =>
      (finderName constraint.fields, constraint.fields) :=
    map_eq_map_of_mapM walked fun _ _ here => outline_of_constraintFinder here
  have standard : (standardFinders object).map Method.outline =
      [("findByPersistenceId", [persistenceId]),
       ("find", pageParameters.map MethodParameter.name)] := rfl
  have queries : (object.queries.map fun query => (Signature.ofQuery query object).method).map
      Method.outline = object.queries.map fun query =>
        ((Signature.ofQuery query object).name,
          (Signature.ofQuery query object).parameters.map MethodParameter.name) := by
    rw [List.map_map]
    exact List.map_congr_left fun query _ => outline_method _
  rw [List.map_append, List.map_append, standard, outlined, queries, daoOutline]

theorem exists_daoMethods_eq_ok {object : BusinessObject} (declared : ConstraintsDeclared object) :
    ∃ methods, daoMethods object = .ok methods := by
  obtain ⟨finders, walked⟩ :=
    exists_mapM_eq_ok (constraintFinder object) fun constraint mem =>
      exists_constraintFinder_eq_ok (declared constraint mem)
  exact ⟨_, daoMethods_eq_ok_iff.2 ⟨finders, walked, rfl⟩⟩

/-! ## Interfaces -/

/-- Nothing in the outline of the interface repeats. -/
def OutlineDistinct (object : BusinessObject) : Prop :=
  (daoMethodNames object).Nodup ∧ ∀ entry ∈ daoOutline object, entry.2.Nodup

/-- Everything about the interface of an object. -/
theorem daoInterface_eq_ok_iff {object : BusinessObject} {spec : ClassSpec} :
    daoInterface object = .ok spec ↔
      typeNameFault? object.qualifiedName = none ∧ OutlineDistinct object ∧
        ∃ methods, daoMethods object = .ok methods ∧
          spec = { qualifiedName := daoName object, kind := .interface, methods } := by
  have distinct : ∀ {methods}, daoMethods object = .ok methods →
      (OutlineDistinct object ↔ (methods.map Method.name).Nodup ∧
        ∀ method ∈ methods, method.parameterNames.Nodup) := by
    intro methods made
    rw [OutlineDistinct, daoMethodNames, ← outline_of_daoMethods made, List.map_map,
      List.forall_mem_map]
    rfl
  unfold daoInterface
  simp only [bind_eq_ok_iff, pure_eq_ok_iff]
  constructor
  · rintro ⟨_, free, methods, made, _, names, _, parameters, rfl⟩
    refine ⟨checkTypeName_eq_ok_iff.1 free, (distinct made).2 ⟨?_, ?_⟩, methods, made, rfl⟩
    · exact checkMethodNames_eq_ok_iff.1 names
    · exact fun method mem => checkParameterNames_eq_ok_iff.1 (forM_eq_ok_iff.1 parameters method mem)
  · rintro ⟨free, apart, methods, made, rfl⟩
    obtain ⟨names, parameters⟩ := (distinct made).1 apart
    refine ⟨(), checkTypeName_eq_ok_iff.2 free, methods, made, (), ?_, (), ?_, rfl⟩
    · exact checkMethodNames_eq_ok_iff.2 names
    · exact forM_eq_ok_iff.2 fun method mem => checkParameterNames_eq_ok_iff.2 (parameters method mem)

/-- An object has an interface if its name is free, its constraints list declared fields and nothing
in the outline repeats. -/
theorem exists_daoInterface_eq_ok {object : BusinessObject}
    (free : typeNameFault? object.qualifiedName = none) (declared : ConstraintsDeclared object)
    (apart : OutlineDistinct object) : ∃ spec, daoInterface object = .ok spec := by
  obtain ⟨methods, made⟩ := exists_daoMethods_eq_ok declared
  exact ⟨_, daoInterface_eq_ok_iff.2 ⟨free, apart, methods, made, rfl⟩⟩

/-- Where the name is free and the constraints list declared fields, an interface fails for a
repetition in the outline: the first among the names of the methods, or else one among the parameters
of a method. -/
theorem repetition_of_daoInterface {object : BusinessObject}
    (free : typeNameFault? object.qualifiedName = none) (declared : ConstraintsDeclared object)
    {fault : ClassFault} (failed : daoInterface object = .error fault) :
    (∃ name, firstRepeated [] (daoMethodNames object) = some name ∧
      fault = .duplicateDaoMethod (daoName object) name) ∨
    ∃ entry ∈ daoOutline object, ∃ name, firstRepeated [] entry.2 = some name ∧
      fault = .duplicateParameter (daoName object) entry.1 name := by
  obtain ⟨methods, made⟩ := exists_daoMethods_eq_ok declared
  have outline := outline_of_daoMethods made
  have names : daoMethodNames object = methods.map Method.name := by
    rw [daoMethodNames, ← outline, List.map_map]
    rfl
  rw [daoInterface, checkTypeName_eq_ok_iff.2 free, made] at failed
  change (checkMethodNames (daoName object) methods >>= fun _ => _) = _ at failed
  rcases bind_eq_error_iff.1 failed with methodTwice | ⟨⟨⟩, -, later⟩
  · left
    rw [names]
    unfold checkMethodNames at methodTwice
    split at methodTwice
    · rename_i name met
      exact ⟨name, met, (Except.error.inj methodTwice).symm⟩
    · cases methodTwice
  · right
    rcases bind_eq_error_iff.1 later with parameterTwice | ⟨⟨⟩, -, last⟩
    · obtain ⟨method, mem, here⟩ := exists_of_forM_eq_error parameterTwice
      unfold checkParameterNames at here
      split at here
      · rename_i name met
        rw [← outline]
        exact ⟨method.outline, List.mem_map_of_mem mem, name, met, (Except.error.inj here).symm⟩
      · cases here
    · cases last

/-- The interface has the name that follows from that of its object. -/
theorem qualifiedName_of_daoInterface {object : BusinessObject} {spec : ClassSpec}
    (made : daoInterface object = .ok spec) : spec.qualifiedName = daoName object := by
  obtain ⟨-, -, methods, -, rfl⟩ := daoInterface_eq_ok_iff.1 made
  rfl

end EntityGen.Blueprint
