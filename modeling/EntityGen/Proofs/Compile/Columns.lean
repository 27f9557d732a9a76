/-
  Proofs/Compile/Columns.lean --- columns of an entity.

  Source: the specification, section 4.2: the column of a field is its name in upper case.

  Every declared field of an entity is mapped to a column named like the field in upper
  case. The checks compare names with only the first letter in upper case, so they keep two
  fields from sharing a column if the names differ in the case of the first letter, and let
  every other difference in case pass. The columns are distinct exactly if the names are
  when letter case is not told apart.
-/
import EntityGen.Proofs.Compile.Classes
import EntityGen.Proofs.Java.Identifier
import EntityGen.Proofs.Text.Upper

set_option autoImplicit false

namespace EntityGen.Compile

open EntityGen.Blueprint (ClassSpec Member Tag TagKind columnTag entityClass)
open EntityGen.Model (BusinessObject DataModel Field FieldType)

/-! ## Columns -/

/-- The tags that map the fields of a class to columns, field by field. -/
def columnTags (spec : ClassSpec) : List Tag :=
  (spec.fields.flatMap Member.tags).filter fun tag => tag.kind == .column

/-- The columns that these tags name. -/
def columnsOf (spec : ClassSpec) : List (Option String) :=
  (columnTags spec).map fun tag => tag.text? "name"

theorem text?_columnTag (field : Field) :
    (columnTag field).text? "name" = some (Text.upper field.name) := by
  have name : (columnTag field).get? "name" = some (.text (Text.upper field.name)) := by
    unfold columnTag
    cases field.columnLength with
    | none => rfl
    | some length => rfl
  rw [Tag.text?, name]

/-- Of the tags of a declared field that of its column comes first, and no other one names a column. -/
theorem filter_fieldMember (field : Field) :
    (Blueprint.fieldMember field).tags.filter (fun tag => tag.kind == .column) =
      [columnTag field] := by
  have others : (Blueprint.extraTags field.type).filter (fun tag => tag.kind == .column) = [] := by
    cases field.type <;> rfl
  rw [Blueprint.tags_fieldMember, List.filter_cons_of_pos (by simp [Blueprint.kind_columnTag]), others]

/-- The columns of an entity for servers are those of the declared fields, in their order. -/
theorem columnsOf_entityClass {object : BusinessObject} {spec : ClassSpec}
    (made : entityClass .server object = .ok spec) :
    columnsOf spec = object.fields.map fun field => some (Text.upper field.name) := by
  have fields : spec.fields = object.fields.map Blueprint.fieldMember ++
      [Blueprint.idMember, Blueprint.versionMember] := by
    obtain ⟨stored, built, rfl⟩ := Blueprint.entityClass_eq_ok_iff.1 made
    obtain ⟨-, table, -, rfl⟩ := Blueprint.serverEntity_eq_ok_iff.1 built
    rfl
  have generated : ([Blueprint.idMember, Blueprint.versionMember].flatMap Member.tags).filter
      (fun tag => tag.kind == .column) = [] := rfl
  have declared : columnTags spec = object.fields.map columnTag := by
    simp only [columnTags, fields, List.flatMap_append, List.filter_append, generated,
      List.append_nil, List.flatMap_map, List.filter_flatMap, filter_fieldMember]
    exact List.flatMap_pure_eq_map columnTag object.fields
  rw [columnsOf, declared, List.map_map]
  exact List.map_congr_left fun field _ => text?_columnTag field

/-! ## Names of fields -/

/-- Fields of identifiers as names share a column exactly if their names are one in lower case. -/
theorem upper_eq_iff {name other : String} (legal : Java.isIdentifier name = true)
    (legal' : Java.isIdentifier other = true) :
    Text.upper name = Text.upper other ↔ Text.lower name = Text.lower other := by
  have ascii : ∀ {name : String}, Java.isIdentifier name = true → Text.AllAscii name :=
    fun legal c mem =>
      Java.isAscii_of_isIdentifierPart (Java.hasIdentifierParts_of_isIdentifier legal c mem)
  exact Text.upper_eq_upper_iff (ascii legal) (ascii legal')

/-- Names with one column and the same characters behind the first are one when capitalized. -/
theorem capitalize_eq_of_upper {name other : String} (legal : Java.isIdentifier name = true)
    (legal' : Java.isIdentifier other = true) (shared : Text.upper name = Text.upper other)
    (behind : name.toList.tail = other.toList.tail) :
    Text.capitalize name = Text.capitalize other := by
  obtain ⟨first, rest, chars, start, -⟩ := Java.isIdentifier_iff.1 legal
  obtain ⟨first', rest', chars', start', -⟩ := Java.isIdentifier_iff.1 legal'
  have raised : ∀ {c : Char}, Java.isIdentifierStart c = true → Text.upperChar c = [c.toUpper] :=
    fun start => if_pos (Java.isAscii_of_isIdentifierPart (Java.isIdentifierPart_of_start start))
  rw [chars, chars', List.tail_cons, List.tail_cons] at behind
  have letters := congrArg String.toList shared
  simp only [Text.upper, String.toList_ofList, chars, chars', List.flatMap_cons,
    raised start, raised start', List.singleton_append, List.cons.injEq] at letters
  simp only [Text.capitalize, chars, chars', Text.capitalizeChars, raised start, raised start',
    letters.1, behind]

/-! ## Main result -/

/-- In the program of a model without errors the columns of an entity are those of the declared
fields. They are pairwise distinct exactly if the names of the fields are so in lower case, and fields
with one column have names that differ behind their first letters. -/
theorem columns_apart_iff {model : DataModel} (noErrors : (check .server model).hasErrors = false) :
    ∃ context program, compile .server [] model = .ok context ∧ context.program = some program ∧
      List.Forall₂ (fun object spec => entityClass .server object = .ok spec ∧
          columnsOf spec = object.fields.map (fun field => some (Text.upper field.name)) ∧
          ((columnsOf spec).Nodup ↔
            (object.fields.map fun field => Text.lower field.name).Nodup) ∧
          object.fields.Pairwise fun field other => Text.upper field.name = Text.upper other.name →
            field.name.toList.tail ≠ other.name.toList.tail)
        model.objects (entitiesOf program) := by
  obtain ⟨clean, context, program, compiled, built, entities, -⟩ := exists_program noErrors
  refine ⟨context, program, compiled, built, ?_⟩
  refine forall₂_of_mem entities fun object listed spec made => ?_
  have legal : ∀ field ∈ object.fields, Java.isIdentifier field.name = true :=
    fun field mem => (clean.fields object listed field mem).1
  have different : object.fields.Pairwise fun field other =>
      Text.capitalize field.name ≠ Text.capitalize other.name := by
    have names := clean.accessors object listed
    rw [List.map_append, List.nodup_append, List.map_map] at names
    exact List.pairwise_map.1 names.2.1
  have columns := columnsOf_entityClass made
  refine ⟨made, columns, ?_, ?_⟩
  · rw [columns]
    constructor
    · intro once
      refine List.pairwise_map.2 ((List.pairwise_map.1 once).imp_of_mem ?_)
      intro field other mem mem' unlike same
      exact unlike (congrArg some ((upper_eq_iff (legal _ mem) (legal _ mem')).2 same))
    · intro once
      refine List.pairwise_map.2 ((List.pairwise_map.1 once).imp_of_mem ?_)
      intro field other mem mem' unlike same
      exact unlike ((upper_eq_iff (legal _ mem) (legal _ mem')).1 (Option.some.inj same))
  · refine different.imp_of_mem fun {field other} mem mem' unlike shared behind => unlike ?_
    exact capitalize_eq_of_upper (legal _ mem) (legal _ mem') shared behind

/-- An object with fields whose names begin alike. -/
def measured : DataModel where
  items := [⟨"org.acme.Reading", none,
    [⟨"level", .double, false, none⟩, ⟨"levelAt", .date, true, none⟩, ⟨"Unit", .string, true, none⟩],
    [], []⟩]
  distinct := by decide

theorem columns_apart_measured :
    (check .server measured).hasErrors = false ∧
      ∃ context program, compile .server [] measured = .ok context ∧
        context.program = some program ∧
        List.Forall₂ (fun object spec => entityClass .server object = .ok spec ∧
            columnsOf spec = object.fields.map (fun field => some (Text.upper field.name)) ∧
            ((columnsOf spec).Nodup ↔
              (object.fields.map fun field => Text.lower field.name).Nodup) ∧
            object.fields.Pairwise fun field other =>
              Text.upper field.name = Text.upper other.name →
                field.name.toList.tail ≠ other.name.toList.tail)
          measured.objects (entitiesOf program) := by
  have noErrors : (check .server measured).hasErrors = false := by decide +kernel
  exact ⟨noErrors, columns_apart_iff noErrors⟩

/-- An object with fields whose names differ in the case of an inner letter. -/
def rented : DataModel where
  items := [⟨"org.acme.Rental", none, [⟨"dueDate", .date, false, none⟩, ⟨"duedate", .string, true, none⟩],
    [], []⟩]
  distinct := by decide

/-- The checks let two fields of an entity have one column. -/
theorem column_shared :
    (check .server rented).hasErrors = false ∧
      ∃ context program, compile .server [] rented = .ok context ∧ context.program = some program ∧
        ∃ spec ∈ entitiesOf program, ¬ (columnsOf spec).Nodup := by
  have noErrors : (check .server rented).hasErrors = false := by decide +kernel
  obtain ⟨-, context, program, compiled, built, entities, -⟩ := exists_program noErrors
  obtain ⟨spec, others, made, -, items⟩ := List.forall₂_cons_left_iff.1 entities
  refine ⟨noErrors, context, program, compiled, built, spec, items ▸ List.mem_cons_self, ?_⟩
  rw [columnsOf_entityClass made]
  decide

end EntityGen.Compile
