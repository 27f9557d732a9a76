/-
  Proofs/Compile/Growth.lean --- models that grow.

  Source: the specification, section 5 (no state is shared between objects) and section 7
  (every diagnostic is collected).

  All lints but one look at each object alone, and the one that compares types walks over
  them in the order of the objects. What a lint finds in a model is therefore the beginning
  of what it finds in the model with more objects behind, so that no finding goes away or
  changes its place among the others, and a model with errors keeps them.
-/
import EntityGen.Proofs.Compile.Build
import EntityGen.Proofs.Lint.Collisions
import Mathlib.Data.List.Flatten

set_option autoImplicit false

namespace EntityGen.Compile

open EntityGen.Blueprint (Variant)
open EntityGen.Lint
open EntityGen.Model (BusinessObject DataModel)

/-! ## Single lints -/

/-- The model of one object. -/
def alone (object : BusinessObject) : DataModel where
  items := [object]
  distinct := List.nodup_singleton _

/-- What the lint finds in a model is what it finds in its objects alone. -/
def IsLocal (lint : Lint) : Prop :=
  ∀ model : DataModel,
    lint.check model = model.objects.flatMap fun object => lint.check (alone object)

/-- What the lint finds in a model comes first in what it finds when objects are added. -/
def Grows (lint : Lint) : Prop :=
  ∀ model extended : DataModel, model.objects <+: extended.objects →
    lint.check model <+: lint.check extended

theorem isLocal_perObject (name description : String) (check : BusinessObject → List Diagnostic) :
    IsLocal (.perObject name description check) := by
  intro model
  change model.objects.flatMap check = model.objects.flatMap fun object => [object].flatMap check
  simp only [List.flatMap_singleton]

theorem IsLocal.grows {lint : Lint} (isLocal : IsLocal lint) : Grows lint := by
  rintro model extended ⟨added, objects⟩
  refine ⟨added.flatMap fun object => lint.check (alone object), ?_⟩
  rw [isLocal model, isLocal extended, ← objects, List.flatMap_append]

/-- Types of added objects are compared last. -/
theorem grows_typeCollision : Grows typeCollision := by
  rintro model extended ⟨added, objects⟩
  change TypeCollision.check model <+: TypeCollision.check extended
  rw [TypeCollision.check, TypeCollision.check, ← objects, List.flatMap_append,
    TypeCollision.collisions_append]
  exact List.prefix_append _ _

/-- Only one of the lints of every model does not look at each object alone. -/
theorem eq_typeCollision_or_isLocal {lint : Lint} (mem : lint ∈ suite) :
    lint = typeCollision ∨ lint.name ≠ TypeCollision.name ∧ IsLocal lint := by
  simp only [suite, List.mem_cons, List.not_mem_nil, or_false] at mem
  rcases mem with rfl | rfl | rfl | rfl | rfl | rfl | rfl
  · exact Or.inr ⟨by decide, isLocal_perObject _ _ _⟩
  · exact Or.inl rfl
  · exact Or.inr ⟨by decide, isLocal_perObject _ _ _⟩
  · exact Or.inr ⟨by decide, isLocal_perObject _ _ _⟩
  · exact Or.inr ⟨by decide, isLocal_perObject _ _ _⟩
  · exact Or.inr ⟨by decide, isLocal_perObject _ _ _⟩
  · exact Or.inr ⟨by decide, isLocal_perObject _ _ _⟩

theorem grows_of_mem_suite {lint : Lint} (mem : lint ∈ suite) : Grows lint := by
  rcases eq_typeCollision_or_isLocal mem with rfl | ⟨-, isLocal⟩
  · exact grows_typeCollision
  · exact isLocal.grows

/-- There is one collision for each generated name beyond the first of its lower case. -/
theorem length_typeCollision_add_card (model : DataModel) :
    (typeCollision.check model).length + ((generatedNames model).map Text.lower).toFinset.card =
      2 * model.size := by
  have names := map_lower_generatedNames model
  have types : (model.objects.flatMap TypeCollision.typesOf).length = 2 * model.size := by
    have same := congrArg List.length names
    rw [List.length_map, List.length_map, length_generatedNames] at same
    exact same.symm
  rw [names, ← types]
  exact TypeCollision.length_collisions_add_card _

/-! ## All lints -/

section

variable {model extended : DataModel} (added : model.objects <+: extended.objects)

include added

/-- Findings stay, in their order, when objects are added. -/
theorem diagnostics_sublist (variant : Variant) :
    (check variant model).diagnostics.Sublist (check variant extended).diagnostics := by
  change (suite.flatMap fun lint => lint.check model).Sublist
    (suite.flatMap fun lint => lint.check extended)
  refine List.Sublist.flatMap_right suite fun lint mem => ?_
  exact (grows_of_mem_suite mem model extended added).sublist

/-- Errors stay when objects are added. -/
theorem hasErrors_of_prefix {variant : Variant} (errors : (check variant model).hasErrors = true) :
    (check variant extended).hasErrors = true := by
  rw [Context.hasErrors, List.any_eq_true] at errors ⊢
  obtain ⟨finding, mem, isError⟩ := errors
  exact ⟨finding, (diagnostics_sublist added variant).subset mem, isError⟩

end

/-! ## Main result -/

/-- The findings in a model are those of the lints, lint by lint. Each lint but that of type
collisions finds in a model what it finds in its objects alone, object by object, and there are as many
type collisions as there are generated names beyond those that differ in lower case. When objects are
added then the findings stay, in their order, and a model with errors is still rejected. -/
theorem findings_local_and_growing (variant : Variant) (model : DataModel) :
    (check variant model).diagnostics = suite.flatMap (fun lint => lint.check model) ∧
    suite.map Lint.name = ["reserved-name", "type-collision", "identifier", "duplicate-field",
      "unique-constraint", "dao-method", "query-return-type"] ∧
    (∀ lint ∈ suite, lint.name ≠ "type-collision" →
      lint.check model = model.objects.flatMap fun object => lint.check (alone object)) ∧
    (∀ lint ∈ suite, lint.name = "type-collision" →
      (lint.check model).length + ((generatedNames model).map Text.lower).toFinset.card =
        2 * model.size) ∧
    ∀ extended : DataModel, model.objects <+: extended.objects →
      (check variant model).diagnostics.Sublist (check variant extended).diagnostics ∧
      ((check variant model).hasErrors = true → (check variant extended).hasErrors = true ∧
        ∀ added, ∃ fault, compile variant added extended = .error fault) := by
  refine ⟨rfl, rfl, fun lint mem other => ?_, fun lint mem named => ?_, fun extended added => ?_⟩
  · rcases eq_typeCollision_or_isLocal mem with rfl | ⟨-, isLocal⟩
    · exact absurd rfl other
    · exact isLocal model
  · rcases eq_typeCollision_or_isLocal mem with rfl | ⟨other, -⟩
    · exact length_typeCollision_add_card model
    · exact absurd named other
  · refine ⟨diagnostics_sublist added variant, fun errors => ?_⟩
    have still := hasErrors_of_prefix added errors
    exact ⟨still, fun phases => ⟨_, compile_of_hasErrors still⟩⟩

/-- A model with two objects whose names differ in letter case. -/
def billed : DataModel where
  items := [⟨"org.acme.Invoice", none, [⟨"class", .string, true, none⟩], [], []⟩,
    ⟨"org.acme.INVOICE", none, [], [], []⟩]
  distinct := by decide

/-- The same with an object that is named like an access interface. -/
def billedMore : DataModel where
  items := billed.objects ++ [⟨"org.acme.invoiceDAO", none, [], [], []⟩]
  distinct := by decide

theorem findings_local_and_growing_billed :
    billed.objects <+: billedMore.objects ∧ (check .server billed).hasErrors = true ∧
      (∀ lint ∈ suite, lint.name = "type-collision" → (lint.check billed).length = 2) ∧
      (check .server billed).diagnostics.Sublist (check .server billedMore).diagnostics ∧
      (check .server billedMore).hasErrors = true := by
  have added : billed.objects <+: billedMore.objects := List.prefix_append _ _
  have errors : (check .server billed).hasErrors = true := by decide +kernel
  have names : ((generatedNames billed).map Text.lower).toFinset.card = 2 := by decide +kernel
  have size : billed.size = 2 := rfl
  obtain ⟨-, -, -, collisions, grown⟩ := findings_local_and_growing .server billed
  obtain ⟨stays, rejected⟩ := grown billedMore added
  refine ⟨added, errors, fun lint mem named => ?_, stays, (rejected errors).1⟩
  have counted := collisions lint mem named
  rw [names, size] at counted
  omega

end EntityGen.Compile
