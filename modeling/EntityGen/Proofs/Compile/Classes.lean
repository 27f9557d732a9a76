/-
  Proofs/Compile/Classes.lean --- the two classes of an object.

  Source: the specification, section 2 and section 4.5 (an entity and an interface for each
  object).

  A program holds two classes for each object, one of them an interface. Each kind taken
  alone follows the order of the objects, so what holds of the entity or of the interface of
  every object can be said of the program, class by class.
-/
import EntityGen.Proofs.Compile.Build

set_option autoImplicit false

namespace EntityGen.Compile

open EntityGen.Blueprint (ClassSpec Program Variant daoInterface entityClass)
open EntityGen.Model (BusinessObject DataModel)

/-- The classes of a program that have bodies. -/
def entitiesOf (program : Program) : List ClassSpec :=
  program.items.filter fun spec => !spec.isInterface

/-- The classes of a program that have none. -/
def interfacesOf (program : Program) : List ClassSpec :=
  program.items.filter ClassSpec.isInterface

theorem isInterface_of_daoInterface {object : BusinessObject} {spec : ClassSpec}
    (made : daoInterface object = .ok spec) : spec.isInterface = true := by
  obtain ⟨-, -, methods, -, rfl⟩ := Blueprint.daoInterface_eq_ok_iff.1 made
  rfl

/-- Of the classes of several objects the entities and the interfaces, each object by object. -/
theorem forall₂_listed {variant : Variant} {objects : List BusinessObject}
    {pairs : List (ClassSpec × ClassSpec)}
    (made : objects.mapM (objectClasses variant) = .ok pairs) :
    List.Forall₂ (fun object spec => entityClass variant object = .ok spec) objects
        ((listed pairs).filter fun spec => !spec.isInterface) ∧
      List.Forall₂ (fun object spec => daoInterface object = .ok spec) objects
        ((listed pairs).filter ClassSpec.isInterface) := by
  have walked := mapM_eq_ok_iff_forall₂.1 made
  clear made
  induction walked with
  | nil => exact ⟨.nil, .nil⟩
  | @cons object pair _ _ here _ ih =>
    obtain ⟨entity, dao⟩ := objectClasses_eq_ok_iff.1 here
    simp only [listed, List.flatMap_cons, List.cons_append, List.nil_append, List.filter_cons,
      Blueprint.isInterface_of_entityClass entity, isInterface_of_daoInterface dao]
    exact ⟨.cons entity ih.1, .cons dao ih.2⟩

/-- What is related in pairs stays so under what each item of the first list makes of a relation. -/
theorem forall₂_of_mem {α β : Type} {R S : α → β → Prop} {items : List α} {results : List β}
    (related : List.Forall₂ R items results)
    (each : ∀ item ∈ items, ∀ result, R item result → S item result) :
    List.Forall₂ S items results := by
  have both := (List.forall₂_and_left items results).2 ⟨fun item mem => mem, related⟩
  exact both.imp fun item result here => each item here.1 result here.2

/-- What is the same of related items holds of all on one side if it does on the other. -/
theorem forall_mem_iff_of_forall₂ {α β : Type} {R : α → β → Prop} {P : β → Prop} {Q : α → Prop}
    {items : List α} {results : List β} (related : List.Forall₂ R items results)
    (same : ∀ item result, R item result → (P result ↔ Q item)) :
    (∀ result ∈ results, P result) ↔ ∀ item ∈ items, Q item := by
  induction related with
  | nil => simp
  | cons here _ ih => rw [List.forall_mem_cons, List.forall_mem_cons, same _ _ here, ih]

/-- A model without errors has a program, in which every object has its entity and its interface. -/
theorem exists_program {variant : Variant} {model : DataModel}
    (noErrors : (check variant model).hasErrors = false) :
    Clean model ∧ ∃ context program, compile variant [] model = .ok context ∧
      context.program = some program ∧
      List.Forall₂ (fun object spec => entityClass variant object = .ok spec) model.objects
        (entitiesOf program) ∧
      List.Forall₂ (fun object spec => daoInterface object = .ok spec) model.objects
        (interfacesOf program) := by
  have clean := (hasErrors_check_eq_false_iff variant).1 noErrors
  obtain ⟨pairs, program, made, items, compiled⟩ := clean.exists_compile variant
  obtain ⟨entities, interfaces⟩ := forall₂_listed made
  refine ⟨clean, _, program, compiled, rfl, ?_, ?_⟩
  · rwa [entitiesOf, items]
  · rwa [interfacesOf, items]

end EntityGen.Compile
