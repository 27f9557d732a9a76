/-
  Proofs/Compile/Constraints.lean --- unique constraints told twice.

  Source: the specification, section 4.2 (`unique_constraint` with upper-cased column names)
  and section 4.4 (a finder for each constraint).

  A unique constraint is told twice: by a tag of the table, which lists columns, and by a
  method of the access interface, which has a parameter for each field. Position by position
  both tell of the same field of the entity, by the name of its column and by its type.
-/
import EntityGen.Proofs.Blueprint.Dao
import EntityGen.Proofs.Compile.Columns
import EntityGen.Proofs.Lint.Accessors

set_option autoImplicit false

namespace EntityGen.Compile

open EntityGen.Blueprint (ClassSpec Member Method MethodParameter Tag accessors columnTag
  constraintTag daoInterface daoMethods entityClass entityMethods fieldMember findTag? finderName
  memberType tableTag)
open EntityGen.Lint.DuplicateField (accessedFields accessorNames)
open EntityGen.Model (BusinessObject Field UniqueConstraint)
open EntityGen.Naming (columnName getterName setterName)

/-! ## Lists -/

/-- Where the items differ in a key, an item is the only one with its key. -/
theorem filter_key_eq {α : Type} {key : α → String} {items : List α}
    (apart : (items.map key).Nodup) {item : α} (mem : item ∈ items) :
    items.filter (fun other => key other == key item) = [item] := by
  induction items with
  | nil => exact absurd mem List.not_mem_nil
  | cons first rest ih =>
    rw [List.map_cons, List.nodup_cons] at apart
    rcases List.mem_cons.1 mem with rfl | later
    · have none : rest.filter (fun other => key other == key item) = [] := by
        refine List.filter_eq_nil_iff.2 fun other among same => apart.1 ?_
        rw [← beq_iff_eq.1 same]
        exact List.mem_map_of_mem among
      rw [List.filter_cons, if_pos (beq_self_eq_true _), none]
    · have unlike : ¬ (key first == key item) = true := by
        intro same
        apply apart.1
        rw [beq_iff_eq.1 same]
        exact List.mem_map_of_mem later
      rw [List.filter_cons, if_neg unlike, ih apart.2 later]

/-! ## Fields -/

/-- What there is in an entity of a field that its object declares: one field with one tag of a
column, one method that writes it, and one that reads it. -/
structure Represents (spec : ClassSpec) (field : Field) (member : Member) (column : Tag) :
    Prop where
  onlyMember : spec.fields.filter (fun other => other.name == field.name) = [member]
  onlyColumn : member.tags.filter (fun tag => tag.kind == .column) = [column]
  setter : ∃ setter, spec.methods.filter (fun other => other.name == setterName field.name) =
      [setter] ∧ setter.body = .setter field.name field.name ∧
    setter.parameters = [⟨field.name, member.type⟩]
  getter : ∃ getter, spec.methods.filter
      (fun other => other.name == getterName field.name field.type) = [getter] ∧
    getter.body = .getter field.name ∧ getter.result = member.type

section Fields

variable {object : BusinessObject} {spec dao : ClassSpec}

theorem nodup_names (made : entityClass .server object = .ok spec)
    (silent : Lint.DuplicateField.check object = []) :
    (spec.fields.map Member.name).Nodup ∧ (spec.methods.map Method.name).Nodup := by
  obtain ⟨methods, fields⟩ := Lint.DuplicateField.names_entityClass made
  rw [Lint.DuplicateField.check_eq_nil_iff_accessedFields] at silent
  rw [methods, fields, Lint.DuplicateField.names_entityMethods, List.nodup_append']
  have capitalized : (((accessedFields object).map Prod.fst).map Text.capitalize).Nodup := by
    rwa [List.map_map]
  exact ⟨capitalized.of_map _, Lint.DuplicateField.nodup_accessors_iff.2 silent, by decide,
    Lint.DuplicateField.disjoint_accessorNames _⟩

theorem represents_of_mem (made : entityClass .server object = .ok spec)
    (silent : Lint.DuplicateField.check object = []) {field : Field}
    (declared : field ∈ object.fields) :
    Represents spec field (fieldMember field) (columnTag field) := by
  obtain ⟨fieldsApart, methodsApart⟩ := nodup_names made silent
  have member : fieldMember field ∈ spec.fields := by
    obtain ⟨stored, built, rfl⟩ := Blueprint.entityClass_eq_ok_iff.1 made
    obtain ⟨-, table, -, rfl⟩ := Blueprint.serverEntity_eq_ok_iff.1 built
    exact List.mem_append_left _ (List.mem_map_of_mem declared)
  have methods : accessors field.name (memberType field.type) field.type ⊆ spec.methods := by
    intro method mem
    rw [Blueprint.methods_entityClass made, entityMethods]
    refine List.mem_append_left _ (List.mem_append_left _ (List.mem_append_left _ ?_))
    exact List.mem_flatMap.2 ⟨field, declared, mem⟩
  exact {
    onlyMember := filter_key_eq fieldsApart member
    onlyColumn := filter_fieldMember field
    setter := ⟨_, filter_key_eq methodsApart (methods List.mem_cons_self), rfl, rfl⟩
    getter := ⟨_, filter_key_eq methodsApart
      (methods (List.mem_cons_of_mem _ List.mem_cons_self)), rfl, rfl⟩ }

/-- A field that is found by its name is one of the fields of the object. -/
theorem mem_of_field? {name : String} {field : Field} (found : object.field? name = some field) :
    field ∈ object.fields ∧ field.name = name := by
  unfold BusinessObject.field? at found
  have hit := List.find?_some found
  exact ⟨List.mem_of_find?_eq_some found, beq_iff_eq.1 hit⟩

end Fields

/-! ## Constraints -/

/-- The tag of the unique constraint at this position of the tag of the table. -/
def constraintTagAt? (spec : ClassSpec) (i : Nat) : Option Tag :=
  match (findTag? spec.tags .table).bind fun table => table.get? "unique_constraints" with
  | some (.tags constraints) => constraints[i]?
  | _ => none

section Constraints

variable {object : BusinessObject} {spec dao : ClassSpec} {constraint : UniqueConstraint} {i : Nat}

/-- A table whose object has constraints lists their tags. -/
theorem exists_constraints_of_tableTag {table : Tag} (made : tableTag object = .ok table)
    (listed : constraint ∈ object.uniqueConstraints) :
    ∃ constraints, object.uniqueConstraints.mapM (constraintTag object) = .ok constraints ∧
      table.get? "unique_constraints" = some (.tags constraints) := by
  rcases Blueprint.tableTag_eq_ok_iff.1 made with ⟨none, -⟩ | ⟨-, constraints, walked, rfl⟩
  · exact absurd none (List.ne_nil_of_mem listed)
  · exact ⟨constraints, walked, (Tag.lookup_setIn _ _ _ _).trans (if_pos rfl)⟩

theorem constraintTagAt?_entityClass (made : entityClass .server object = .ok spec)
    (here : object.uniqueConstraints[i]? = some constraint) :
    ∃ tag, constraintTagAt? spec i = some tag ∧ constraintTag object constraint = .ok tag := by
  obtain ⟨stored, built, rfl⟩ := Blueprint.entityClass_eq_ok_iff.1 made
  obtain ⟨-, table, tabled, rfl⟩ := Blueprint.serverEntity_eq_ok_iff.1 built
  obtain ⟨constraints, walked, listed⟩ :=
    exists_constraints_of_tableTag tabled (List.mem_of_getElem? here)
  obtain ⟨tag, atPosition, tagged⟩ := exists_getElem?_of_mapM walked here
  refine ⟨tag, ?_, tagged⟩
  have isTable : (table.kind == .table) = true := beq_iff_eq.2 (Blueprint.kind_tableTag tabled)
  have found : ∀ (entity : Tag) (others : List Tag), entity.kind = .entity →
      findTag? ([entity, table] ++ others) .table = some table := by
    intro entity others kind
    simp [findTag?, kind, isTable]
  rw [constraintTagAt?, found _ _ rfl, Option.bind_some, listed]
  exact atPosition

/-- The finder of a constraint is the only method of its name in the access interface. -/
theorem filter_finderName (made : daoInterface object = .ok dao)
    (listed : constraint ∈ object.uniqueConstraints) :
    ∃ finder, dao.methods.filter (fun other => other.name == finderName constraint.fields) =
      [finder] ∧ Blueprint.constraintFinder object constraint = .ok finder := by
  obtain ⟨-, ⟨namesApart, -⟩, methods, listed', rfl⟩ := Blueprint.daoInterface_eq_ok_iff.1 made
  have apart : (methods.map Method.name).Nodup := by
    rw [Blueprint.daoMethodNames, ← Blueprint.outline_of_daoMethods listed', List.map_map]
      at namesApart
    exact namesApart
  obtain ⟨finders, walked, rfl⟩ := Blueprint.daoMethods_eq_ok_iff.1 listed'
  obtain ⟨finder, among, found⟩ := exists_mem_of_mapM walked listed
  have name : finder.name = finderName constraint.fields :=
    congrArg Prod.fst (Blueprint.outline_of_constraintFinder found)
  refine ⟨finder, ?_, found⟩
  rw [← name]
  exact filter_key_eq apart (List.mem_append_left _ (List.mem_append_right _ among))

/-- A finder has at a position the parameter of the field which its constraint lists there. -/
theorem exists_parameter_of_constraintFinder {finder : Method} {k : Nat} {name : String}
    (made : Blueprint.constraintFinder object constraint = .ok finder)
    (here : constraint.fields[k]? = some name) :
    ∃ field ∈ object.fields, field.name = name ∧
      finder.parameters[k]? = some ⟨name, memberType field.type⟩ := by
  obtain ⟨parameters, walked, whole⟩ := bind_eq_ok_iff.1 made
  obtain ⟨parameter, atPosition, found⟩ := exists_getElem?_of_mapM walked here
  obtain ⟨field, declared, rfl⟩ := Blueprint.finderParameter_eq_ok_iff.1 found
  obtain ⟨mem, named⟩ := mem_of_field? declared
  rw [← pure_eq_ok_iff.1 whole]
  exact ⟨field, mem, named, atPosition⟩

end Constraints

/-! ## Main result -/

/-- Where an object has an entity for servers and an access interface, and none of its fields is
reported as a duplicate, every field has one column, and both sides of every unique constraint
agree: the only method that is named like its finder has a parameter for each of its fields, the tag
at its position in the tag of the table has a column for each, and at every position these are the
name and the type of a field of the entity, which are those of its setter and its getter, and the
name that the tag of the field gives its column. -/
theorem constraints_agree {object : BusinessObject} {spec dao : ClassSpec}
    (made : entityClass .server object = .ok spec) (accessible : daoInterface object = .ok dao)
    (silent : Lint.DuplicateField.check object = []) :
    (∀ field ∈ object.fields, ∃ member column, Represents spec field member column) ∧
    ∀ (i : Nat) (constraint : UniqueConstraint), object.uniqueConstraints[i]? = some constraint →
      ∃ finder tag columns,
        dao.methods.filter (fun other => other.name == finderName constraint.fields) = [finder] ∧
        finder.parameterNames = constraint.fields ∧
        constraintTagAt? spec i = some tag ∧ tag.kind = .uniqueConstraint ∧
        tag.get? "column_names" = some (.texts columns) ∧
        columns.length = constraint.fields.length ∧
        ∀ (k : Nat) (name : String), constraint.fields[k]? = some name →
          ∃ field ∈ object.fields, field.name = name ∧
            ∃ member column parameter columnName, Represents spec field member column ∧
              finder.parameters[k]? = some parameter ∧ parameter.name = name ∧
              parameter.type = member.type ∧
              column.text? "name" = some columnName ∧ columns[k]? = some columnName := by
  refine ⟨fun field declared => ⟨_, _, represents_of_mem made silent declared⟩, ?_⟩
  intro i constraint here
  obtain ⟨finder, only, found⟩ := filter_finderName accessible (List.mem_of_getElem? here)
  obtain ⟨tag, atPosition, tagged⟩ := constraintTagAt?_entityClass made here
  obtain ⟨-, rfl⟩ := Blueprint.constraintTag_eq_ok_iff.1 tagged
  refine ⟨finder, _, constraint.fields.map columnName, only, ?_, atPosition, rfl, ?_, ?_, ?_⟩
  · exact congrArg Prod.snd (Blueprint.outline_of_constraintFinder found)
  · exact (Tag.lookup_setIn _ _ _ _).trans (if_pos rfl)
  · exact List.length_map _
  · intro k name listed
    obtain ⟨field, declared, named, parameter⟩ := exists_parameter_of_constraintFinder found listed
    refine ⟨field, declared, named, _, _, _, _, represents_of_mem made silent declared, parameter,
      rfl, rfl, text?_columnTag field, ?_⟩
    rw [List.getElem?_map, listed, Option.map_some, named]
    rfl

/-- An object with two unique constraints that share a field. -/
def booked : BusinessObject where
  qualifiedName := "org.acme.Booking"
  description := none
  fields := [⟨"room", .string, false, some 12⟩, ⟨"day", .date, false, none⟩,
    ⟨"paid", .boolean, true, none⟩]
  queries := []
  uniqueConstraints := [⟨"oncePerDay", ["room", "day"]⟩, ⟨"onePayment", ["paid", "room"]⟩]

theorem constraints_agree_booked :
    ∃ spec dao, entityClass .server booked = .ok spec ∧ daoInterface booked = .ok dao ∧
      Lint.DuplicateField.check booked = [] ∧
      (∀ field ∈ booked.fields, ∃ member column, Represents spec field member column) ∧
      ∃ finder tag columns,
        dao.methods.filter (fun other => other.name == "findByPaidAndRoom") = [finder] ∧
        finder.parameterNames = ["paid", "room"] ∧ constraintTagAt? spec 1 = some tag ∧
        tag.get? "column_names" = some (.texts columns) ∧ columns.length = 2 := by
  have silent : Lint.DuplicateField.check booked = [] := by decide
  have free : Blueprint.typeNameFault? booked.qualifiedName = none := by decide
  have declared : Blueprint.ConstraintsDeclared booked := by
    unfold Blueprint.ConstraintsDeclared
    decide
  obtain ⟨spec, made⟩ := Blueprint.exists_entityClass_eq_ok .server free declared
  obtain ⟨dao, accessible⟩ := Blueprint.exists_daoInterface_eq_ok free declared
    (show Blueprint.OutlineDistinct booked by unfold Blueprint.OutlineDistinct; decide)
  obtain ⟨each, both⟩ := constraints_agree made accessible silent
  obtain ⟨finder, tag, columns, only, names, atPosition, -, listed, long, -⟩ := both 1 _ rfl
  exact ⟨spec, dao, made, accessible, silent, each, finder, tag, columns, only, names, atPosition,
    listed, long⟩

end EntityGen.Compile
