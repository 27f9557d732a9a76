/-
  Proofs/Java/ProgramNames.lean --- names in programs.

  Source: the specification, section 7 (invalid Java identifiers, Java keywords: fatal
  before any file is written).

  The members and parameters in the program of a model without errors are named by
  identifiers, wherever their names come from. The types are so exactly if all segments of
  the names of the objects are identifiers, which no check looks at.
-/
import EntityGen.Proofs.Compile.Build
import EntityGen.Proofs.Java.Identifier

set_option autoImplicit false

namespace EntityGen.Java

open EntityGen.Blueprint (ClassSpec Member Method MethodParameter TypeRef Variant accessors
  daoInterface daoName daoOutline entityClass entityMethods persistenceId persistenceVersion)
open EntityGen.Compile (Clean listed objectClasses)
open EntityGen.Lint.Identifier (FieldUsable QueryUsable)
open EntityGen.Model (BusinessObject DataModel FieldType Query)

/-! ## Names of a class -/

/-- The names of a method and its parameters. -/
def methodNames (method : Method) : List String :=
  method.name :: method.parameterNames

/-- The names of the fields, the methods and the parameters of a class. -/
def memberNames (spec : ClassSpec) : List String :=
  spec.fields.map Member.name ++ spec.methods.flatMap methodNames

/-- The packages around a type, from the outermost, and its simple name. -/
def segments (qualifiedName : String) : List String :=
  Text.split '.' qualifiedName

/-- Everything in a class that has to be an identifier. -/
def identifierNames (spec : ClassSpec) : List String :=
  segments spec.qualifiedName ++ memberNames spec

/-- Every name is an identifier. -/
def AllIdentifiers (names : List String) : Prop :=
  ∀ name ∈ names, isIdentifier name = true

instance (names : List String) : Decidable (AllIdentifiers names) :=
  decidable_of_iff (names.all isIdentifier = true) List.all_eq_true

@[simp] theorem allIdentifiers_append {names others : List String} :
    AllIdentifiers (names ++ others) ↔ AllIdentifiers names ∧ AllIdentifiers others :=
  List.forall_mem_append

/-- Classes for clients have the names of those for servers. -/
theorem memberNames_withoutPersistence (spec : ClassSpec) :
    memberNames spec.withoutPersistence = memberNames spec := by
  simp only [memberNames, ClassSpec.withoutPersistence, List.map_map, List.flatMap_map]
  rfl

/-! ## Entities -/

/-- The methods that read and write a field have identifiers if the field has one. -/
theorem allIdentifiers_accessors {name : String} (legal : isIdentifier name = true)
    (member : TypeRef) (type : FieldType) :
    AllIdentifiers ((accessors name member type).flatMap methodNames) := by
  intro used mem
  simp only [accessors, methodNames, Method.parameterNames, List.flatMap_cons, List.flatMap_nil,
    List.map_cons, List.map_nil, List.mem_append, List.mem_cons, List.not_mem_nil, or_false] at mem
  rcases mem with (rfl | rfl) | rfl
  · exact isIdentifier_setterName legal
  · exact legal
  · exact isIdentifier_getterName legal type

theorem allIdentifiers_entityMethods {object : BusinessObject}
    (usable : ∀ field ∈ object.fields, FieldUsable field) :
    AllIdentifiers ((entityMethods object).flatMap methodNames) := by
  have declared : AllIdentifiers ((object.fields.flatMap fun field =>
      accessors field.name (Blueprint.memberType field.type) field.type).flatMap methodNames) := by
    intro used mem
    rw [List.flatMap_assoc] at mem
    obtain ⟨field, listed, here⟩ := List.mem_flatMap.1 mem
    exact allIdentifiers_accessors (usable field listed).1 _ _ used here
  have comparing : AllIdentifiers
      ([Blueprint.equalsMethod object, Blueprint.hashCodeMethod object].flatMap methodNames) := by
    change AllIdentifiers ["equals", "obj", "hashCode"]
    decide
  have id : isIdentifier persistenceId = true := by decide
  have version : isIdentifier persistenceVersion = true := by decide
  simp only [entityMethods, List.flatMap_append, allIdentifiers_append]
  exact ⟨⟨⟨declared, allIdentifiers_accessors id _ _⟩, allIdentifiers_accessors version _ _⟩,
    comparing⟩

/-- The members of an entity have identifiers if the fields of the object are usable. -/
theorem allIdentifiers_entityClass {variant : Variant} {object : BusinessObject} {spec : ClassSpec}
    (made : entityClass variant object = .ok spec)
    (usable : ∀ field ∈ object.fields, FieldUsable field) : AllIdentifiers (memberNames spec) := by
  obtain ⟨stored, built, rfl⟩ := Blueprint.entityClass_eq_ok_iff.1 made
  have legal : AllIdentifiers (memberNames stored) := by
    obtain ⟨-, table, -, rfl⟩ := Blueprint.serverEntity_eq_ok_iff.1 built
    rw [memberNames, allIdentifiers_append]
    refine ⟨fun used mem => ?_, allIdentifiers_entityMethods usable⟩
    simp only [List.map_append, List.map_map, List.mem_append, List.mem_map] at mem
    rcases mem with ⟨field, listed, rfl⟩ | ⟨member, generated, rfl⟩
    · exact (usable field listed).1
    · revert member
      decide
  cases variant with
  | server => exact legal
  | client =>
    rw [memberNames_withoutPersistence]
    exact legal

/-! ## Access interfaces -/

/-- The names of the members of an interface are those in its outline. -/
theorem memberNames_daoInterface {object : BusinessObject} {spec : ClassSpec}
    (made : daoInterface object = .ok spec) :
    memberNames spec = (daoOutline object).flatMap fun entry => entry.1 :: entry.2 := by
  obtain ⟨-, -, methods, built, rfl⟩ := Blueprint.daoInterface_eq_ok_iff.1 made
  rw [← Blueprint.outline_of_daoMethods built, List.flatMap_map]
  rfl

/-- A field that the object declares under a name has an identifier. -/
theorem isIdentifier_of_declared {object : BusinessObject} {name : String}
    (usable : ∀ field ∈ object.fields, FieldUsable field)
    (declared : (object.field? name).isSome) : isIdentifier name = true := by
  obtain ⟨field, found⟩ := Option.isSome_iff_exists.1 declared
  have same : field.name = name := by simpa using List.find?_some found
  rw [← same]
  exact (usable field (List.mem_of_find?_eq_some found)).1

theorem name_ofQuery (query : Query) (object : BusinessObject) :
    (Blueprint.Signature.ofQuery query object).name = query.name := by
  unfold Blueprint.Signature.ofQuery
  split <;> rfl

/-- What a query is called with are its own parameters, and the bounds of a page at most. -/
theorem allIdentifiers_signature {query : Query} (usable : QueryUsable query)
    (object : BusinessObject) :
    AllIdentifiers ((Blueprint.Signature.ofQuery query object).parameters.map
      MethodParameter.name) := by
  have declared : AllIdentifiers ((query.parameters.map fun parameter =>
      MethodParameter.mk parameter.name (.named parameter.className)).map
        MethodParameter.name) := by
    intro used mem
    rw [List.map_map] at mem
    obtain ⟨parameter, listed, rfl⟩ := List.mem_map.1 mem
    exact usable.2 parameter listed
  have bounds : AllIdentifiers (Blueprint.pageParameters.map MethodParameter.name) := by decide
  unfold Blueprint.Signature.ofQuery
  split
  · rw [List.map_append, allIdentifiers_append]
    exact ⟨declared, bounds⟩
  · exact declared

/-- The members of an interface have identifiers if the fields and queries of the object are usable
and its constraints list declared fields. -/
theorem allIdentifiers_daoInterface {object : BusinessObject} {spec : ClassSpec}
    (made : daoInterface object = .ok spec)
    (usable : ∀ field ∈ object.fields, FieldUsable field)
    (callable : ∀ query ∈ object.queries, QueryUsable query)
    (declared : Blueprint.ConstraintsDeclared object) : AllIdentifiers (memberNames spec) := by
  rw [memberNames_daoInterface made]
  intro used mem
  obtain ⟨entry, listed, here⟩ := List.mem_flatMap.1 mem
  simp only [daoOutline, List.mem_append, List.mem_map] at listed
  rcases listed with (standard | ⟨constraint, stated, rfl⟩) | ⟨query, asked, rfl⟩
  · have legal : ∀ entry ∈ [("findByPersistenceId", [persistenceId]),
        ("find", Blueprint.pageParameters.map MethodParameter.name)],
        AllIdentifiers (entry.1 :: entry.2) := by
      decide
    exact legal entry standard used here
  · have legal : ∀ field ∈ constraint.fields, isIdentifier field = true :=
      fun field mentioned => isIdentifier_of_declared usable (declared constraint stated field mentioned)
    rcases List.mem_cons.1 here with rfl | parameter
    · exact isIdentifier_finderName legal
    · exact legal used parameter
  · simp only [name_ofQuery] at here
    rcases List.mem_cons.1 here with rfl | parameter
    · exact (callable query asked).1
    · exact allIdentifiers_signature (callable query asked) object used parameter

/-! ## Names of types -/

/-- The segments of the name of an interface are identifiers if those of the object are. -/
theorem allIdentifiers_segments_daoName {object : BusinessObject}
    (legal : AllIdentifiers (segments object.qualifiedName)) :
    AllIdentifiers (segments (daoName object)) := by
  have plain : '.' ∉ Blueprint.daoSuffix.toList := by decide
  obtain ⟨before, last, own, dao⟩ := Text.split_append plain object.qualifiedName
  rw [segments, own, allIdentifiers_append] at legal
  rw [segments, daoName, dao, allIdentifiers_append]
  refine ⟨legal.1, fun used mem => ?_⟩
  rw [List.mem_singleton.1 mem]
  exact isIdentifier_append (legal.2 last (List.mem_singleton.2 rfl)) (by decide)
    (Text.append_not_mem_of_tail (by decide) last)

/-! ## Programs -/

/-- The members in the classes of a clean model have identifiers. -/
theorem allIdentifiers_of_clean {variant : Variant} {model : DataModel} (clean : Clean model)
    {pairs : List (ClassSpec × ClassSpec)}
    (made : model.objects.mapM (objectClasses variant) = .ok pairs) :
    ∀ spec ∈ listed pairs, AllIdentifiers (memberNames spec) := by
  intro spec mem
  obtain ⟨object, listed, entity | dao⟩ := Compile.exists_of_mem_listed made mem
  · exact allIdentifiers_entityClass entity (clean.fields object listed)
  · exact allIdentifiers_daoInterface dao (clean.fields object listed)
      (clean.queries object listed) (clean.constraintsDeclared listed)

/-- Generated types have legal names if the objects do. -/
theorem allIdentifiers_generatedNames_iff {model : DataModel} :
    (∀ name ∈ Compile.generatedNames model, AllIdentifiers (segments name)) ↔
      ∀ object ∈ model.objects, AllIdentifiers (segments object.qualifiedName) := by
  constructor
  · intro legal object mem
    exact legal _ (Compile.mem_generatedNames.2 ⟨object, mem, Or.inl rfl⟩)
  · intro legal name mem
    obtain ⟨object, listed, rfl | rfl⟩ := Compile.mem_generatedNames.1 mem
    · exact legal object listed
    · exact allIdentifiers_segments_daoName (legal object listed)

/-- The classes of all objects have legal names if the objects do. -/
theorem allIdentifiers_segments_iff {variant : Variant} {model : DataModel}
    {pairs : List (ClassSpec × ClassSpec)}
    (made : model.objects.mapM (objectClasses variant) = .ok pairs) :
    (∀ spec ∈ listed pairs, AllIdentifiers (segments spec.qualifiedName)) ↔
      ∀ object ∈ model.objects, AllIdentifiers (segments object.qualifiedName) := by
  have byName : (∀ spec ∈ listed pairs, AllIdentifiers (segments spec.qualifiedName)) ↔
      ∀ name ∈ (listed pairs).map ClassSpec.qualifiedName, AllIdentifiers (segments name) := by
    rw [List.forall_mem_map]
  rw [byName, Compile.names_listed made]
  exact allIdentifiers_generatedNames_iff

/-- A model without errors has a program in which all members and parameters have identifiers. All
names in it are identifiers exactly if every segment of the name of every object is one. -/
theorem identifierNames_legal_iff {variant : Variant} {model : DataModel}
    (noErrors : (Compile.check variant model).hasErrors = false) :
    ∃ context program, Compile.compile variant [] model = .ok context ∧
      context.program = some program ∧
      (∀ spec ∈ program.items, AllIdentifiers (memberNames spec)) ∧
      ((∀ spec ∈ program.items, AllIdentifiers (identifierNames spec)) ↔
        ∀ object ∈ model.objects, AllIdentifiers (segments object.qualifiedName)) := by
  have clean := (Compile.hasErrors_check_eq_false_iff variant).1 noErrors
  obtain ⟨pairs, program, made, items, compiled⟩ := clean.exists_compile variant
  have members := allIdentifiers_of_clean clean made
  refine ⟨_, program, compiled, rfl, items ▸ members, ?_⟩
  rw [items, ← allIdentifiers_segments_iff made]
  simp only [identifierNames, allIdentifiers_append]
  exact ⟨fun legal spec mem => (legal spec mem).1, fun legal spec mem =>
    ⟨legal spec mem, members spec mem⟩⟩

/-- A model with names of every origin: two accessors for each field, one finder, and a query with a
parameter and the bounds of a page. -/
def customers : DataModel where
  items := [{
    qualifiedName := "org.acme.Customer"
    description := none
    fields := [⟨"email", .string, false, some 80⟩, ⟨"active", .boolean, true, none⟩]
    queries := [⟨"findActive", "SELECT c FROM Customer c", "java.util.List",
      [⟨"since", "java.util.Date"⟩]⟩]
    uniqueConstraints := [⟨"oneEmail", ["email"]⟩] }]
  distinct := by decide

theorem identifierNames_legal_customers :
    (Compile.check .client customers).hasErrors = false ∧
      ∃ context program, Compile.compile .client [] customers = .ok context ∧
        context.program = some program ∧
        (∀ spec ∈ program.items, AllIdentifiers (memberNames spec)) ∧
        ((∀ spec ∈ program.items, AllIdentifiers (identifierNames spec)) ↔
          ∀ object ∈ customers.objects, AllIdentifiers (segments object.qualifiedName)) := by
  have noErrors : (Compile.check .client customers).hasErrors = false := by decide +kernel
  exact ⟨noErrors, identifierNames_legal_iff noErrors⟩

/-- A model with a reserved word as the simple name of an object. -/
def keywordNamed : DataModel where
  items := [⟨"org.acme.class", none, [], [], []⟩]
  distinct := by decide

/-- The checks let a reserved word pass as the name of a type. -/
theorem keyword_names_type :
    (Compile.check .server keywordNamed).hasErrors = false ∧
      ∃ context program, Compile.compile .server [] keywordNamed = .ok context ∧
        context.program = some program ∧
        ¬ ∀ spec ∈ program.items, AllIdentifiers (identifierNames spec) := by
  have noErrors : (Compile.check .server keywordNamed).hasErrors = false := by decide +kernel
  have clean := (Compile.hasErrors_check_eq_false_iff .server).1 noErrors
  obtain ⟨pairs, program, made, items, compiled⟩ := clean.exists_compile .server
  refine ⟨noErrors, _, program, compiled, rfl, fun legal => ?_⟩
  have objects := (allIdentifiers_segments_iff made).1 fun spec mem =>
    (allIdentifiers_append.1 (legal spec (items ▸ mem))).1
  have reserved : ¬ AllIdentifiers (segments "org.acme.class") := by decide
  exact reserved (objects _ List.mem_cons_self)

end EntityGen.Java
