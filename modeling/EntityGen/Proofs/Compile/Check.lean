/-
  Proofs/Compile/Check.lean --- models without errors.

  Source: the specification, section 7 (the taxonomy of faults).

  The checks find no error in a model exactly if it is clean: each object has a free name,
  usable members, distinct accessors, well listed constraints and an interface in which
  nothing repeats, and no two generated types share a name but for letter case. The variant
  does not matter.

  `Clean` says what a model without errors is like, without mentioning a lint. Theorems on
  clean models use its fields and not the code of the checks.
-/
import EntityGen.Compile.Phase
import EntityGen.Proofs.Lint.Silence

set_option autoImplicit false

namespace EntityGen.Compile

open EntityGen.Blueprint (OutlineDistinct Variant typeNameFault?)
open EntityGen.Lint
open EntityGen.Model (BusinessObject DataModel Field UniqueConstraint)

/-- What a model without errors is like. -/
structure Clean (model : DataModel) : Prop where
  /-- No name is reserved. -/
  typeNames : ∀ object ∈ model.objects, typeNameFault? object.qualifiedName = none
  /-- Generated types differ by more than letter case. -/
  typesApart : ((model.objects.flatMap TypeCollision.typesOf).map TypeCollision.foldedName).Nodup
  /-- Fields and their accessors have usable names. -/
  fields : ∀ object ∈ model.objects, ∀ field ∈ object.fields, Identifier.FieldUsable field
  /-- Queries and their parameters have usable names. -/
  queries : ∀ object ∈ model.objects, ∀ query ∈ object.queries, Identifier.QueryUsable query
  /-- Fields have accessors of their own. -/
  accessors : ∀ object ∈ model.objects,
    ((DuplicateField.generatedFields ++ object.fields.map Field.name).map Text.capitalize).Nodup
  /-- Constraints of an object have distinct names. -/
  constraintNames : ∀ object ∈ model.objects,
    (object.uniqueConstraints.map UniqueConstraint.name).Nodup
  /-- Constraints list declared fields. -/
  constraints : ∀ object ∈ model.objects, ∀ constraint ∈ object.uniqueConstraints,
    UniqueConstraint.Listed object constraint
  /-- Nothing in an interface repeats. -/
  outlines : ∀ object ∈ model.objects, OutlineDistinct object

/-- Among findings that all are errors there is an error unless there is no finding. -/
theorem any_isError_eq_false_iff {findings : List Diagnostic}
    (strict : ∀ finding ∈ findings, finding.isError = true) :
    findings.any Diagnostic.isError = false ↔ findings = [] := by
  cases findings with
  | nil => simp
  | cons finding rest => simp [strict finding List.mem_cons_self]

/-- The same for a check that looks at each object on its own. -/
theorem any_isError_flatMap_eq_false_iff (check : BusinessObject → List Diagnostic)
    {objects : List BusinessObject}
    (strict : ∀ object, ∀ finding ∈ check object, finding.isError = true) :
    (objects.flatMap check).any Diagnostic.isError = false ↔
      ∀ object ∈ objects, check object = [] := by
  rw [any_isError_eq_false_iff, List.flatMap_eq_nil_iff]
  intro finding mem
  obtain ⟨object, -, here⟩ := List.mem_flatMap.1 mem
  exact strict object finding here

/-- The findings, lint by lint. -/
theorem diagnostics_check (variant : Variant) (model : DataModel) :
    (check variant model).diagnostics =
      model.objects.flatMap ReservedName.check ++ TypeCollision.check model ++
        model.objects.flatMap Identifier.check ++ model.objects.flatMap DuplicateField.check ++
        model.objects.flatMap UniqueConstraint.check ++ model.objects.flatMap DaoMethod.check ++
        model.objects.flatMap QueryReturnType.check := by
  simp [check, collect, Context.report, Context.start, findings, suite, reservedName,
    typeCollision, identifier, duplicateField, uniqueConstraint, daoMethod, queryReturnType,
    Lint.perObject]

/-- Results of queries are no errors. -/
theorem any_isError_returnTypes (objects : List BusinessObject) :
    (objects.flatMap QueryReturnType.check).any Diagnostic.isError = false := by
  rw [List.any_eq_false]
  intro finding mem
  obtain ⟨object, -, here⟩ := List.mem_flatMap.1 mem
  have severity : finding.severity = .warning :=
    congrArg Prod.fst (QueryReturnType.stamp_of_mem_check here)
  simp [Diagnostic.isError, severity]

/-- There is no error exactly if the model is clean. -/
theorem hasErrors_check_eq_false_iff (variant : Variant) {model : DataModel} :
    (check variant model).hasErrors = false ↔ Clean model := by
  rw [Context.hasErrors, diagnostics_check]
  simp only [List.any_append, Bool.or_eq_false_iff, any_isError_returnTypes, and_true]
  rw [any_isError_flatMap_eq_false_iff _ fun _ _ mem =>
      Diagnostic.isError_of_stamp (ReservedName.stamp_of_mem_check mem),
    any_isError_eq_false_iff fun _ mem =>
      Diagnostic.isError_of_stamp (TypeCollision.stamp_of_mem_check mem),
    any_isError_flatMap_eq_false_iff _ fun _ _ mem =>
      Diagnostic.isError_of_stamp (Identifier.stamp_of_mem_check mem),
    any_isError_flatMap_eq_false_iff _ fun _ _ mem =>
      Diagnostic.isError_of_stamp (DuplicateField.stamp_of_mem_check mem),
    any_isError_flatMap_eq_false_iff _ fun _ _ mem =>
      Diagnostic.isError_of_stamp (UniqueConstraint.stamp_of_mem_check mem),
    any_isError_flatMap_eq_false_iff _ fun _ _ mem =>
      Diagnostic.isError_of_stamp (DaoMethod.stamp_of_mem_check mem)]
  simp only [ReservedName.check_eq_nil_iff, TypeCollision.check_eq_nil_iff,
    Identifier.check_eq_nil_iff, DuplicateField.check_eq_nil_iff,
    UniqueConstraint.check_eq_nil_iff, DaoMethod.check_eq_nil_iff]
  constructor
  · rintro ⟨⟨⟨⟨⟨free, apart⟩, usable⟩, accessors⟩, constraints⟩, outlines⟩
    exact ⟨free, apart, fun object mem => (usable object mem).1,
      fun object mem => (usable object mem).2, accessors, fun object mem => (constraints object mem).1,
      fun object mem => (constraints object mem).2, outlines⟩
  · intro clean
    exact ⟨⟨⟨⟨⟨clean.typeNames, clean.typesApart⟩,
      fun object mem => ⟨clean.fields object mem, clean.queries object mem⟩⟩, clean.accessors⟩,
      fun object mem => ⟨clean.constraintNames object mem, clean.constraints object mem⟩⟩,
      clean.outlines⟩

/-- The order of the objects does not matter. -/
theorem Clean.perm {model other : DataModel} (clean : Clean model)
    (perm : other.objects.Perm model.objects) : Clean other where
  typeNames := fun object mem => clean.typeNames object (perm.mem_iff.1 mem)
  typesApart := by
    have types := (perm.flatMap_right TypeCollision.typesOf).map TypeCollision.foldedName
    exact types.nodup_iff.2 clean.typesApart
  fields := fun object mem => clean.fields object (perm.mem_iff.1 mem)
  queries := fun object mem => clean.queries object (perm.mem_iff.1 mem)
  accessors := fun object mem => clean.accessors object (perm.mem_iff.1 mem)
  constraintNames := fun object mem => clean.constraintNames object (perm.mem_iff.1 mem)
  constraints := fun object mem => clean.constraints object (perm.mem_iff.1 mem)
  outlines := fun object mem => clean.outlines object (perm.mem_iff.1 mem)

/-- Constraints of a clean model list declared fields. -/
theorem Clean.constraintsDeclared {model : DataModel} (clean : Clean model)
    {object : BusinessObject} (mem : object ∈ model.objects) :
    Blueprint.ConstraintsDeclared object :=
  fun constraint listed => (clean.constraints object mem constraint listed).2

/-- The names of the generated types, object by object. -/
def generatedNames (model : DataModel) : List String :=
  model.objects.flatMap fun object => [object.qualifiedName, Blueprint.daoName object]

theorem mem_generatedNames {model : DataModel} {name : String} :
    name ∈ generatedNames model ↔
      ∃ object ∈ model.objects, name = object.qualifiedName ∨ name = Blueprint.daoName object := by
  simp [generatedNames]

/-- Two types are generated for each object. -/
theorem length_generatedNames (model : DataModel) :
    (generatedNames model).length = 2 * model.size := by
  rw [generatedNames, Roster.size, List.length_flatMap]
  simp [Nat.mul_comm]

/-- The lint of type collisions compares the names of the generated types in lower case. -/
theorem map_lower_generatedNames (model : DataModel) :
    (generatedNames model).map Text.lower =
      (model.objects.flatMap TypeCollision.typesOf).map TypeCollision.foldedName := by
  rw [generatedNames, List.map_flatMap, List.map_flatMap]
  rfl

/-- Generated types of a clean model have names that differ by more than letter case. -/
theorem Clean.lower_generatedNames_nodup {model : DataModel} (clean : Clean model) :
    ((generatedNames model).map Text.lower).Nodup := by
  rw [map_lower_generatedNames]
  exact clean.typesApart

/-- Generated types of a clean model have pairwise distinct names. -/
theorem Clean.generatedNames_nodup {model : DataModel} (clean : Clean model) :
    (generatedNames model).Nodup :=
  clean.lower_generatedNames_nodup.of_map Text.lower

end EntityGen.Compile
