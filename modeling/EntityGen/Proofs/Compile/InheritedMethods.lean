/-
  Proofs/Compile/InheritedMethods.lean --- methods that every object has.

  Source: the specification, section 4.2 (`equals` and `hashCode`) and section 4.4, and the
  methods of `Object` in Java.

  A generated method without parameters that is named like a method of every object declares
  that method anew. Entities do so once, on purpose, with the method that hashes them: the
  checks refuse fields whose getters would. Nothing looks at the names of queries in this
  way. The method of a query stands alone in declaring an inherited method anew, and it does
  so if the query has such a name, takes no parameters and is answered by one object.
-/
import EntityGen.Proofs.Compile.Classes
import EntityGen.Proofs.Naming

set_option autoImplicit false

namespace EntityGen.Compile

open EntityGen.Blueprint (ClassSpec Method MethodParameter Signature TypeRef Variant accessors
  daoInterface entityClass entityMethods hashCodeMethod)
open EntityGen.Lint.Identifier (FieldUsable objectMethods)
open EntityGen.Model (BusinessObject DataModel Field FieldType Query)

/-- The method takes no parameters and is named like one that every object has. -/
def Redeclares (method : Method) : Prop :=
  method.parameters = [] ∧ method.name ∈ objectMethods

instance (method : Method) : Decidable (Redeclares method) :=
  decidable_of_iff (method.parameters.isEmpty = true ∧ method.name ∈ objectMethods)
    (and_congr_left' List.isEmpty_iff)

/-- The methods of a class that every object has anyway. -/
def redeclared (spec : ClassSpec) : List Method :=
  spec.methods.filter Redeclares

/-! ## Entities -/

/-- The accessors of a field that the checks let pass are no methods that every object has. -/
theorem filter_accessors {name : String} {member : TypeRef} {type : FieldType}
    (getter : Naming.getterName name type ∉ objectMethods) :
    (accessors name member type).filter Redeclares = [] := by
  simp [accessors, Redeclares, getter]

/-- An entity with usable fields declares one inherited method anew, that which hashes it. -/
theorem redeclared_entityClass {variant : Variant} {object : BusinessObject} {spec : ClassSpec}
    (made : entityClass variant object = .ok spec)
    (usable : ∀ field ∈ object.fields, FieldUsable field) :
    redeclared spec = [hashCodeMethod object] := by
  have declared : (object.fields.flatMap fun field =>
      accessors field.name (Blueprint.memberType field.type) field.type).filter Redeclares = [] := by
    rw [List.filter_flatMap, List.flatMap_eq_nil_iff]
    exact fun field mem => filter_accessors (usable field mem).2.1
  have id : (accessors Blueprint.persistenceId Blueprint.generatedType .long).filter
      Redeclares = [] := filter_accessors (by decide)
  have version : (accessors Blueprint.persistenceVersion Blueprint.generatedType .long).filter
      Redeclares = [] := filter_accessors (by decide)
  have comparing : [Blueprint.equalsMethod object, hashCodeMethod object].filter Redeclares =
      [hashCodeMethod object] := rfl
  rw [redeclared, Blueprint.methods_entityClass made, entityMethods, List.filter_append,
    List.filter_append, List.filter_append, declared, id, version, comparing]
  rfl

/-! ## Interfaces -/

/-- The query is called without anything and named like a method that every object has. -/
def QueryRedeclares (query : Query) : Prop :=
  query.parameters = [] ∧ query.returnsSequence = false ∧ query.name ∈ objectMethods

instance (query : Query) : Decidable (QueryRedeclares query) :=
  inferInstanceAs (Decidable (_ ∧ _ ∧ _))

/-- The bounds of a page are parameters, too. -/
theorem redeclares_method_iff (query : Query) (object : BusinessObject) :
    Redeclares (Signature.ofQuery query object).method ↔ QueryRedeclares query := by
  unfold Redeclares QueryRedeclares Signature.method Signature.ofQuery
  cases query.returnsSequence with
  | true => simp [Blueprint.pageParameters]
  | false => simp

/-- The names of the finders of constraints begin like no inherited method. -/
theorem filter_constraintFinders {object : BusinessObject} {finders : List Method}
    (made : object.uniqueConstraints.mapM (Blueprint.constraintFinder object) = .ok finders) :
    finders.filter Redeclares = [] := by
  rw [List.filter_eq_nil_iff]
  intro finder mem
  obtain ⟨constraint, -, here⟩ := exists_of_mem_mapM made mem
  have name : finder.name = Blueprint.finderName constraint.fields :=
    congrArg Prod.fst (Blueprint.outline_of_constraintFinder here)
  have foreign : finder.name ∉ objectMethods := by
    rw [name]
    exact Text.append_not_mem_of_lead (by decide) _
  simp [Redeclares, foreign]

/-- The inherited methods that an interface declares anew are those of such queries. -/
theorem redeclared_daoInterface {object : BusinessObject} {spec : ClassSpec}
    (made : daoInterface object = .ok spec) :
    redeclared spec = (object.queries.filter QueryRedeclares).map fun query =>
      (Signature.ofQuery query object).method := by
  obtain ⟨-, -, methods, listed, rfl⟩ := Blueprint.daoInterface_eq_ok_iff.1 made
  obtain ⟨finders, walked, rfl⟩ := Blueprint.daoMethods_eq_ok_iff.1 listed
  have standard : (Blueprint.standardFinders object).filter Redeclares = [] := rfl
  have asked : (object.queries.map fun query => (Signature.ofQuery query object).method).filter
      Redeclares = (object.queries.filter QueryRedeclares).map fun query =>
        (Signature.ofQuery query object).method := by
    rw [List.filter_map]
    refine congrArg _ (List.filter_congr fun query _ => ?_)
    exact decide_eq_decide.2 (redeclares_method_iff query object)
  simp only [redeclared, List.filter_append, standard, filter_constraintFinders walked, asked,
    List.nil_append]

/-! ## Main result -/

/-- In the program of a model without errors an entity declares no inherited method anew but that
which hashes it. An interface declares anew those that queries are named after, so that there are none
in any interface exactly if every query of such a name takes parameters or is answered in pages. -/
theorem inherited_methods_kept_iff {variant : Variant} {model : DataModel}
    (noErrors : (check variant model).hasErrors = false) :
    ∃ context program, compile variant [] model = .ok context ∧ context.program = some program ∧
      List.Forall₂ (fun object spec => entityClass variant object = .ok spec ∧
          redeclared spec = [hashCodeMethod object])
        model.objects (entitiesOf program) ∧
      List.Forall₂ (fun object spec => daoInterface object = .ok spec ∧
          redeclared spec = (object.queries.filter QueryRedeclares).map fun query =>
            (Signature.ofQuery query object).method)
        model.objects (interfacesOf program) ∧
      ((∀ spec ∈ interfacesOf program, redeclared spec = []) ↔
        ∀ object ∈ model.objects, ∀ query ∈ object.queries, query.name ∈ objectMethods →
          query.parameters ≠ [] ∨ query.returnsSequence = true) := by
  obtain ⟨clean, context, program, compiled, built, entities, interfaces⟩ := exists_program noErrors
  have queries : List.Forall₂ (fun object spec => daoInterface object = .ok spec ∧
      redeclared spec = (object.queries.filter QueryRedeclares).map fun query =>
        (Signature.ofQuery query object).method) model.objects (interfacesOf program) :=
    interfaces.imp fun object spec made => ⟨made, redeclared_daoInterface made⟩
  refine ⟨context, program, compiled, built, ?_, queries, ?_⟩
  · exact forall₂_of_mem entities fun object listed spec made =>
      ⟨made, redeclared_entityClass made (clean.fields object listed)⟩
  · refine forall_mem_iff_of_forall₂ queries fun object spec here => ?_
    rw [here.2, List.map_eq_nil_iff, List.filter_eq_nil_iff]
    refine forall₂_congr fun query _ => ?_
    rw [decide_eq_true_eq]
    constructor
    · intro free named
      by_contra called
      rw [not_or, not_not, Bool.not_eq_true] at called
      exact free ⟨called.1, called.2, named⟩
    · rintro called ⟨noParameters, single, named⟩
      rcases called named with parameters | pages
      · exact parameters noParameters
      · exact Bool.false_ne_true (single.symm.trans pages)

/-- An object with queries named after inherited methods that are called otherwise. -/
def watched : DataModel where
  items := [⟨"org.acme.Sensor", none, [⟨"Class", .boolean, false, none⟩],
    [⟨"notify", "SELECT s FROM Sensor s WHERE s.room = :room", "org.acme.Sensor",
      [⟨"room", "java.lang.String"⟩]⟩,
     ⟨"notifyAll", "SELECT s FROM Sensor s", "java.util.List<Sensor>", []⟩], []⟩]
  distinct := by decide

theorem inherited_methods_kept_watched :
    (check .client watched).hasErrors = false ∧
      ∃ context program, compile .client [] watched = .ok context ∧
        context.program = some program ∧
        List.Forall₂ (fun object spec => entityClass .client object = .ok spec ∧
            redeclared spec = [hashCodeMethod object])
          watched.objects (entitiesOf program) ∧
        List.Forall₂ (fun object spec => daoInterface object = .ok spec ∧
            redeclared spec = (object.queries.filter QueryRedeclares).map fun query =>
              (Signature.ofQuery query object).method)
          watched.objects (interfacesOf program) ∧
        ((∀ spec ∈ interfacesOf program, redeclared spec = []) ↔
          ∀ object ∈ watched.objects, ∀ query ∈ object.queries, query.name ∈ objectMethods →
            query.parameters ≠ [] ∨ query.returnsSequence = true) := by
  have noErrors : (check .client watched).hasErrors = false := by decide +kernel
  exact ⟨noErrors, inherited_methods_kept_iff noErrors⟩

/-- An object with a query that is named after an inherited method and takes no parameters. -/
def described : DataModel where
  items := [⟨"org.acme.Label", none, [], [⟨"toString", "SELECT l FROM Label l", "org.acme.Label", []⟩],
    []⟩]
  distinct := by decide

/-- The checks let a query declare an inherited method anew. -/
theorem inherited_method_redeclared :
    (check .server described).hasErrors = false ∧
      ∃ context program, compile .server [] described = .ok context ∧
        context.program = some program ∧ ∃ spec ∈ interfacesOf program, redeclared spec ≠ [] := by
  have noErrors : (check .server described).hasErrors = false := by decide +kernel
  obtain ⟨-, context, program, compiled, built, -, interfaces⟩ := exists_program noErrors
  obtain ⟨spec, others, made, -, items⟩ := List.forall₂_cons_left_iff.1 interfaces
  refine ⟨noErrors, context, program, compiled, built, spec, items ▸ List.mem_cons_self, ?_⟩
  rw [redeclared_daoInterface made, ne_eq, List.map_eq_nil_iff]
  decide

end EntityGen.Compile
