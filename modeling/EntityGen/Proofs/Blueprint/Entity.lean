/-
  Proofs/Blueprint/Entity.lean --- when entities can be made.

  Source: the specification, section 4.2: the class of an object and the faults that keep it
  from being made.

  The class of an object is made exactly if its name is free and its unique constraints list
  fields that it declares. What is made then is fixed by the object, and so are its members.
  The class for clients is that for servers without the tags of the class and of its fields
  and without interfaces.

  Later files take the members of an entity from the equations here and do not open
  `entityClass`.
-/
import EntityGen.Blueprint.Entity
import EntityGen.Proofs.Attempts

set_option autoImplicit false

namespace EntityGen.Blueprint

open EntityGen.Model (BusinessObject Field FieldType UniqueConstraint)

/-! ## Names of types -/

/-- A name is free if nothing is wrong with it. -/
theorem checkTypeName_eq_ok_iff {qualifiedName : String} :
    checkTypeName qualifiedName = .ok () ↔ typeNameFault? qualifiedName = none := by
  unfold checkTypeName
  cases typeNameFault? qualifiedName with
  | none => simp
  | some fault => simp

/-! ## Tags -/

/-- Every field that a unique constraint of the object lists is a field of the object. -/
def ConstraintsDeclared (object : BusinessObject) : Prop :=
  ∀ constraint ∈ object.uniqueConstraints, ∀ field ∈ constraint.fields,
    (object.field? field).isSome

theorem constraintsDeclared_of_eq_nil {object : BusinessObject}
    (without : object.uniqueConstraints = []) : ConstraintsDeclared object := by
  intro constraint mem
  rw [without] at mem
  cases mem

/-- A constraint has a tag if the object declares its fields. -/
theorem constraintTag_eq_ok_iff {object : BusinessObject} {constraint : UniqueConstraint}
    {tag : Tag} :
    constraintTag object constraint = .ok tag ↔
      (∀ field ∈ constraint.fields, (object.field? field).isSome) ∧
        tag = ((Tag.ofKind .uniqueConstraint).set "name" (.text constraint.name)).set
          "column_names" (.texts (constraint.fields.map Naming.columnName)) := by
  unfold constraintTag
  cases search : constraint.fields.find? fun field => (object.field? field).isNone with
  | some missing =>
    have undeclared := List.find?_some search
    have listed := List.mem_of_find?_eq_some search
    simp only [reduceCtorEq, false_iff, not_and]
    intro declared
    have found := declared missing listed
    simp_all
  | none =>
    have declared : ∀ field ∈ constraint.fields, (object.field? field).isSome := by
      intro field listed
      have notMissing := List.find?_eq_none.1 search field listed
      simpa [Option.isSome_iff_ne_none] using notMissing
    simp only [Except.ok.injEq]
    exact ⟨fun made => ⟨declared, made.symm⟩, fun made => made.2.symm⟩

/-- The tag of a table that has nothing but a name. -/
def namedTable (object : BusinessObject) : Tag :=
  (Tag.ofKind .table).set "name" (.text (Naming.columnName object.simpleName))

/-- The tag of a table is its name, with the tags of the constraints if there are any. -/
theorem tableTag_eq_ok_iff {object : BusinessObject} {table : Tag} :
    tableTag object = .ok table ↔
      (object.uniqueConstraints = [] ∧ table = namedTable object) ∨
        (object.uniqueConstraints ≠ [] ∧ ∃ constraints,
          object.uniqueConstraints.mapM (constraintTag object) = .ok constraints ∧
            table = (namedTable object).set "unique_constraints" (.tags constraints)) := by
  unfold tableTag
  simp only
  split
  · rename_i empty
    have none : object.uniqueConstraints = [] := List.isEmpty_iff.1 empty
    constructor
    · intro made
      exact Or.inl ⟨none, (pure_eq_ok_iff.1 made).symm⟩
    · rintro (⟨-, rfl⟩ | ⟨some, -⟩)
      · rfl
      · exact absurd none some
  · rename_i constrained
    have some : object.uniqueConstraints ≠ [] := fun none => constrained (List.isEmpty_iff.2 none)
    rw [bind_eq_ok_iff]
    constructor
    · rintro ⟨constraints, walked, last⟩
      exact Or.inr ⟨some, constraints, walked, (pure_eq_ok_iff.1 last).symm⟩
    · rintro (⟨none, -⟩ | ⟨-, constraints, walked, rfl⟩)
      · exact absurd none some
      · exact ⟨constraints, walked, rfl⟩

/-- There is a tag of the table if all constraints list declared fields. -/
theorem exists_tableTag_eq_ok {object : BusinessObject} (declared : ConstraintsDeclared object) :
    ∃ table, tableTag object = .ok table := by
  by_cases none : object.uniqueConstraints = []
  · exact ⟨_, tableTag_eq_ok_iff.2 (Or.inl ⟨none, rfl⟩)⟩
  · obtain ⟨constraints, walked⟩ :=
      exists_mapM_eq_ok (constraintTag object) fun constraint mem =>
        ⟨_, constraintTag_eq_ok_iff.2 ⟨declared constraint mem, rfl⟩⟩
    exact ⟨_, tableTag_eq_ok_iff.2 (Or.inr ⟨none, constraints, walked, rfl⟩)⟩

/-! ## Classes -/

/-- Everything about the class of an object that is stored. -/
theorem serverEntity_eq_ok_iff {object : BusinessObject} {spec : ClassSpec} :
    serverEntity object = .ok spec ↔
      typeNameFault? object.qualifiedName = none ∧ ∃ table, tableTag object = .ok table ∧
        spec = {
          qualifiedName := object.qualifiedName
          doc := object.description
          tags := [(Tag.ofKind .entity).set "name" (.text object.simpleName), table] ++
            queryTags object
          interfaces := [entityMarker]
          fields := object.fields.map fieldMember ++ [idMember, versionMember]
          methods := entityMethods object } := by
  unfold serverEntity
  simp only [bind_eq_ok_iff, pure_eq_ok_iff]
  constructor
  · rintro ⟨⟨⟩, free, table, made, rfl⟩
    exact ⟨checkTypeName_eq_ok_iff.1 free, table, made, rfl⟩
  · rintro ⟨free, table, made, rfl⟩
    exact ⟨(), checkTypeName_eq_ok_iff.2 free, table, made, rfl⟩

/-- The class for clients is made whenever that for servers is. -/
theorem entityClass_eq_ok_iff {variant : Variant} {object : BusinessObject} {spec : ClassSpec} :
    entityClass variant object = .ok spec ↔
      ∃ stored, serverEntity object = .ok stored ∧
        spec = match variant with
          | .server => stored
          | .client => stored.withoutPersistence := by
  unfold entityClass
  rw [bind_eq_ok_iff]
  cases variant with
  | server => simp only [pure_eq_ok_iff, eq_comm (a := spec)]
  | client => simp only [pure_eq_ok_iff, eq_comm (a := spec)]

/-- An object has a class if its name is free and its constraints list declared fields. -/
theorem exists_entityClass_eq_ok {object : BusinessObject} (variant : Variant)
    (free : typeNameFault? object.qualifiedName = none) (declared : ConstraintsDeclared object) :
    ∃ spec, entityClass variant object = .ok spec := by
  obtain ⟨table, made⟩ := exists_tableTag_eq_ok declared
  exact ⟨_, entityClass_eq_ok_iff.2 ⟨_, serverEntity_eq_ok_iff.2 ⟨free, table, made, rfl⟩, rfl⟩⟩

/-- The class has the name of its object. -/
theorem qualifiedName_of_entityClass {variant : Variant} {object : BusinessObject}
    {spec : ClassSpec} (made : entityClass variant object = .ok spec) :
    spec.qualifiedName = object.qualifiedName := by
  obtain ⟨stored, built, rfl⟩ := entityClass_eq_ok_iff.1 made
  obtain ⟨-, table, -, rfl⟩ := serverEntity_eq_ok_iff.1 built
  cases variant with
  | server => rfl
  | client => rfl

/-- An entity is a class. -/
theorem isInterface_of_entityClass {variant : Variant} {object : BusinessObject} {spec : ClassSpec}
    (made : entityClass variant object = .ok spec) : spec.isInterface = false := by
  obtain ⟨stored, built, rfl⟩ := entityClass_eq_ok_iff.1 made
  obtain ⟨-, table, -, rfl⟩ := serverEntity_eq_ok_iff.1 built
  cases variant with
  | server => rfl
  | client => rfl

/-! ## What is about storing -/

theorem kind_tableTag {object : BusinessObject} {table : Tag} (made : tableTag object = .ok table) :
    table.kind = .table := by
  rcases tableTag_eq_ok_iff.1 made with ⟨-, rfl⟩ | ⟨-, constraints, -, rfl⟩
  · rfl
  · rfl

theorem isPersistence_of_mem_queryTags {object : BusinessObject} {tag : Tag}
    (mem : tag ∈ queryTags object) : tag.kind.isPersistence = true := by
  unfold queryTags at mem
  split at mem
  · exact absurd mem List.not_mem_nil
  · rw [List.mem_singleton.1 mem]
    rfl

theorem isPersistence_of_mem_extraTags {type : FieldType} {tag : Tag}
    (mem : tag ∈ extraTags type) : tag.kind.isPersistence = true := by
  cases type <;> simp_all [extraTags] <;> rfl

theorem kind_columnTag (field : Field) : (columnTag field).kind = .column := by
  unfold columnTag
  simp only
  split <;> rfl

/-- All tags of a stored class and of its fields are about storing. -/
theorem isPersistence_of_serverEntity {object : BusinessObject} {spec : ClassSpec}
    (made : serverEntity object = .ok spec) :
    (∀ tag ∈ spec.tags, tag.kind.isPersistence = true) ∧
      ∀ member ∈ spec.fields, ∀ tag ∈ member.tags, tag.kind.isPersistence = true := by
  obtain ⟨-, table, tabled, rfl⟩ := serverEntity_eq_ok_iff.1 made
  constructor
  · intro tag mem
    simp only [List.cons_append, List.nil_append, List.mem_cons] at mem
    rcases mem with rfl | rfl | query
    · rfl
    · rw [kind_tableTag tabled]
      rfl
    · exact isPersistence_of_mem_queryTags query
  · intro member mem tag tagged
    simp only [List.mem_append, List.mem_cons, List.not_mem_nil, or_false] at mem
    rcases mem with declared | rfl | rfl
    · obtain ⟨field, -, rfl⟩ := List.mem_map.1 declared
      rcases List.mem_cons.1 tagged with rfl | extra
      · rw [kind_columnTag]
        rfl
      · exact isPersistence_of_mem_extraTags extra
    · simp only [idMember, List.mem_cons, List.not_mem_nil, or_false] at tagged
      rcases tagged with rfl | rfl
      · rfl
      · rfl
    · rw [List.mem_singleton.1 tagged]
      rfl

theorem withoutPersistence_eq_nil {tags : List Tag}
    (all : ∀ tag ∈ tags, tag.kind.isPersistence = true) : withoutPersistence tags = [] := by
  rw [withoutPersistence, List.filter_eq_nil_iff]
  intro tag mem
  simp [all tag mem]

/-- The methods of an entity are marked as replacing inherited ones or not at all. -/
theorem tags_entityMethods_subset {object : BusinessObject} {method : Method}
    (mem : method ∈ entityMethods object) : method.tags ⊆ [.ofKind .override] := by
  have untagged : ∀ {name : String} {member : TypeRef} {type : FieldType},
      method ∈ accessors name member type → method.tags ⊆ [.ofKind .override] := by
    intro name member type mem
    simp only [accessors, List.mem_cons, List.not_mem_nil, or_false] at mem
    rcases mem with rfl | rfl
    · exact List.nil_subset _
    · exact List.nil_subset _
  simp only [entityMethods, List.mem_append] at mem
  rcases mem with ((declared | id) | version) | comparing
  · obtain ⟨field, -, here⟩ := List.mem_flatMap.1 declared
    exact untagged here
  · exact untagged id
  · exact untagged version
  · simp only [List.mem_cons, List.not_mem_nil, or_false] at comparing
    rcases comparing with rfl | rfl
    · exact List.Subset.refl _
    · exact List.Subset.refl _

/-- No tag of a method of an entity is about storing. -/
theorem isPersistence_entityMethods {object : BusinessObject} {method : Method}
    (mem : method ∈ entityMethods object) :
    ∀ tag ∈ method.tags, tag.kind.isPersistence = false := by
  intro tag tagged
  rw [List.mem_singleton.1 (tags_entityMethods_subset mem tagged)]
  rfl

theorem withoutPersistence_entityMethods (object : BusinessObject) :
    (entityMethods object).map (fun method =>
      { method with tags := withoutPersistence method.tags }) = entityMethods object := by
  have same : ∀ method ∈ entityMethods object,
      { method with tags := withoutPersistence method.tags } = method := by
    intro method mem
    have kept : withoutPersistence method.tags = method.tags := by
      rw [withoutPersistence, List.filter_eq_self]
      intro tag tagged
      simp [isPersistence_entityMethods mem tag tagged]
    rw [kept]
  rw [List.map_congr_left same, List.map_id']

/-- What a class for clients leaves out are the tags of the class and of its fields and the
interfaces. -/
theorem withoutPersistence_of_serverEntity {object : BusinessObject} {spec : ClassSpec}
    (made : serverEntity object = .ok spec) :
    spec.withoutPersistence =
      { spec with
        tags := []
        interfaces := []
        fields := spec.fields.map fun member => { member with tags := [] } } := by
  obtain ⟨ofClass, ofFields⟩ := isPersistence_of_serverEntity made
  have fields : (spec.fields.map fun member =>
      { member with tags := withoutPersistence member.tags }) =
        spec.fields.map fun member => { member with tags := [] } := by
    refine List.map_congr_left fun member mem => ?_
    rw [withoutPersistence_eq_nil (ofFields member mem)]
  have methods : (spec.methods.map fun method =>
      { method with tags := withoutPersistence method.tags }) = spec.methods := by
    obtain ⟨-, table, -, rfl⟩ := serverEntity_eq_ok_iff.1 made
    exact withoutPersistence_entityMethods object
  rw [ClassSpec.withoutPersistence, withoutPersistence_eq_nil ofClass, fields, methods]

/-- Entities of both variants have the description of the object for a comment. -/
theorem doc_entityClass {variant : Variant} {object : BusinessObject} {spec : ClassSpec}
    (made : entityClass variant object = .ok spec) : spec.doc = object.description := by
  obtain ⟨stored, built, rfl⟩ := entityClass_eq_ok_iff.1 made
  obtain ⟨-, table, -, rfl⟩ := serverEntity_eq_ok_iff.1 built
  cases variant with
  | server => rfl
  | client => rfl

/-- Entities of both variants have the methods of the object. -/
theorem methods_entityClass {variant : Variant} {object : BusinessObject} {spec : ClassSpec}
    (made : entityClass variant object = .ok spec) : spec.methods = entityMethods object := by
  obtain ⟨stored, built, rfl⟩ := entityClass_eq_ok_iff.1 made
  have methods : stored.methods = entityMethods object := by
    obtain ⟨-, table, -, rfl⟩ := serverEntity_eq_ok_iff.1 built
    rfl
  cases variant with
  | server => exact methods
  | client =>
    rw [withoutPersistence_of_serverEntity built]
    exact methods

end EntityGen.Blueprint
