/-
  Proofs/Lint/Accessors.lean --- accessors of their own.

  Source: the specification, section 4.2 (`set<Cap>`, `get<Cap>`, `is<Cap>`) and section 7
  (duplicate field names).

  The check for duplicate fields compares capitalized names and never looks at a method. It
  is exact all the same: it finds nothing exactly if the methods of the entity have pairwise
  distinct names. The name of an accessor is one of three words before the capitalized name
  of the field, no two of these words begin alike, and neither of the methods that compare
  and hash begins like one of them.
-/
import EntityGen.Proofs.Lint.Silence
import EntityGen.Proofs.Naming

set_option autoImplicit false

namespace EntityGen

namespace Text

/-- Texts that are put together from words with different first characters are different. -/
theorem append_ne_append_of_head? {lead other tail rest : String} (long : lead.toList ≠ [])
    (long' : other.toList ≠ []) (apart : lead.toList.head? ≠ other.toList.head?) :
    lead ++ tail ≠ other ++ rest := by
  intro same
  have heads := congrArg (fun text => text.toList.head?) same
  simp only [String.toList_append, List.head?_append_of_ne_nil _ long,
    List.head?_append_of_ne_nil _ long'] at heads
  exact apart heads

end Text

namespace Lint.DuplicateField

open EntityGen.Blueprint (ClassSpec Member Method TypeRef Variant accessors entityClass
  entityMethods persistenceId persistenceVersion)
open EntityGen.Model (BusinessObject Field FieldType)
open EntityGen.Naming (getterName setterName)

/-! ## Names of accessors -/

/-- A field of an entity, declared or generated, as far as its accessors go. -/
abbrev Accessed : Type := String × FieldType

/-- The names of the methods that write and read a field. -/
def accessorNames (field : Accessed) : List String :=
  [setterName field.1, getterName field.1 field.2]

/-- The fields of an entity, the declared ones first. -/
def accessedFields (object : BusinessObject) : List Accessed :=
  object.fields.map (fun field => (field.name, field.type)) ++
    [(persistenceId, .long), (persistenceVersion, .long)]

/-- The words before the name of a field. -/
def accessorLeads : List String := ["set", "get", "is"]

theorem lead_of_mem_accessorNames {field : Accessed} {name : String}
    (mem : name ∈ accessorNames field) :
    ∃ lead ∈ accessorLeads, name = lead ++ Text.capitalize field.1 := by
  simp only [accessorNames, List.mem_cons, List.not_mem_nil, or_false] at mem
  rcases mem with rfl | rfl
  · exact ⟨"set", by decide, rfl⟩
  · unfold getterName
    split
    · exact ⟨"is", by decide, rfl⟩
    · exact ⟨"get", by decide, rfl⟩

/-- What follows the word is told by the whole name, because the words begin differently. -/
theorem eq_of_lead_append {lead other : String} (mem : lead ∈ accessorLeads)
    (mem' : other ∈ accessorLeads) {name more : String} (same : lead ++ name = other ++ more) :
    name = more := by
  have words : ∀ lead ∈ accessorLeads, lead.toList ≠ [] ∧
      ∀ other ∈ accessorLeads, lead.toList.head? = other.toList.head? → lead = other := by
    decide
  have heads : lead.toList.head? = other.toList.head? := by
    by_contra apart
    exact Text.append_ne_append_of_head? (words lead mem).1 (words other mem').1 apart same
  have word := (words lead mem).2 other mem' heads
  rw [word, ← String.toList_inj, String.toList_append, String.toList_append] at same
  exact String.toList_inj.1 (List.append_cancel_left same)

/-- Fields with an accessor in common have the same capitalized name. -/
theorem capitalize_eq_of_mem_accessorNames {field other : Accessed} {name : String}
    (mem : name ∈ accessorNames field) (mem' : name ∈ accessorNames other) :
    Text.capitalize field.1 = Text.capitalize other.1 := by
  obtain ⟨lead, word, rfl⟩ := lead_of_mem_accessorNames mem
  obtain ⟨lead', word', same⟩ := lead_of_mem_accessorNames mem'
  exact eq_of_lead_append word word' same

theorem nodup_accessorNames (field : Accessed) : (accessorNames field).Nodup := by
  have apart : setterName field.1 ≠ getterName field.1 field.2 := by
    unfold setterName getterName
    split
    · exact Text.append_ne_append_of_head? (by decide) (by decide) (by decide)
    · exact Text.append_ne_append_of_head? (by decide) (by decide) (by decide)
  simpa [accessorNames] using apart

/-- Setters alone tell capitalized names apart. -/
theorem nodup_accessors_iff {fields : List Accessed} :
    (fields.flatMap accessorNames).Nodup ↔
      (fields.map fun field => Text.capitalize field.1).Nodup := by
  constructor
  · intro apart
    have setters : (fields.map fun field => setterName field.1).Sublist
        (fields.flatMap accessorNames) := by
      induction fields with
      | nil => exact List.Sublist.slnil
      | cons field rest ih =>
        rw [List.map_cons, List.flatMap_cons]
        exact ((ih (List.nodup_append.1 apart).2.1).cons _).cons_cons _
    have prefixed : ((fields.map fun field => Text.capitalize field.1).map fun name =>
        "set" ++ name).Nodup := by
      rw [List.map_map]
      exact apart.sublist setters
    exact prefixed.of_map _
  · intro apart
    rw [List.nodup_flatMap]
    refine ⟨fun field _ => nodup_accessorNames field, ?_⟩
    refine (List.pairwise_map.1 apart).imp fun {field other} different => ?_
    exact List.disjoint_left.2 fun name mem mem' =>
      different (capitalize_eq_of_mem_accessorNames mem mem')

/-- No accessor is named like one of the methods that compare and hash. -/
theorem disjoint_accessorNames (fields : List Accessed) :
    List.Disjoint (fields.flatMap accessorNames) ["equals", "hashCode"] := by
  refine List.disjoint_left.2 fun name mem => ?_
  obtain ⟨field, -, here⟩ := List.mem_flatMap.1 mem
  obtain ⟨lead, word, rfl⟩ := lead_of_mem_accessorNames here
  have unlike : ∀ lead ∈ accessorLeads, ∀ other ∈ ["equals", "hashCode"],
      ¬ lead.toList.isPrefixOf other.toList := by
    decide
  exact Text.append_not_mem_of_lead (unlike lead word) _

/-! ## Names in an entity -/

theorem names_entityMethods (object : BusinessObject) :
    (entityMethods object).map Method.name =
      (accessedFields object).flatMap accessorNames ++ ["equals", "hashCode"] := by
  simp only [entityMethods, accessedFields, List.map_append, List.map_flatMap, List.flatMap_append,
    List.flatMap_map, List.append_assoc]
  rfl

/-- Leaving out what is about storing renames nothing. -/
theorem names_withoutPersistence (spec : ClassSpec) :
    spec.withoutPersistence.methods.map Method.name = spec.methods.map Method.name ∧
      spec.withoutPersistence.fields.map Member.name = spec.fields.map Member.name := by
  simp only [ClassSpec.withoutPersistence, List.map_map]
  exact ⟨rfl, rfl⟩

/-- Both variants of an entity have the same methods and the same fields by name. -/
theorem names_entityClass {variant : Variant} {object : BusinessObject} {spec : ClassSpec}
    (made : entityClass variant object = .ok spec) :
    spec.methods.map Method.name = (entityMethods object).map Method.name ∧
      spec.fields.map Member.name = (accessedFields object).map Prod.fst := by
  obtain ⟨stored, built, rfl⟩ := Blueprint.entityClass_eq_ok_iff.1 made
  obtain ⟨-, table, -, rfl⟩ := Blueprint.serverEntity_eq_ok_iff.1 built
  have fields : (object.fields.map Blueprint.fieldMember ++
      [Blueprint.idMember, Blueprint.versionMember]).map Member.name =
        (accessedFields object).map Prod.fst := by
    simp only [accessedFields, List.map_append, List.map_map]
    rfl
  cases variant with
  | server => exact ⟨rfl, fields⟩
  | client =>
    obtain ⟨methods, members⟩ := names_withoutPersistence _
    exact ⟨methods, members.trans fields⟩

/-- The check looks at the capitalized names of all fields of the entity. -/
theorem check_eq_nil_iff_accessedFields {object : BusinessObject} :
    check object = [] ↔
      ((accessedFields object).map fun field => Text.capitalize field.1).Nodup := by
  have order : ((generatedFields ++ object.fields.map Field.name).map Text.capitalize).Perm
      ((accessedFields object).map fun field => Text.capitalize field.1) := by
    simp only [accessedFields, List.map_append, List.map_map]
    exact List.perm_append_comm
  rw [check_eq_nil_iff, order.nodup_iff]

/-! ## Main result -/

/-- The methods of an entity are the accessors of its fields and the methods that compare and hash.
Nothing is found in an object exactly if these have pairwise distinct names, and then so have the
fields of the entity. -/
theorem entity_names_apart_iff {variant : Variant} {object : BusinessObject} {spec : ClassSpec}
    (made : entityClass variant object = .ok spec) :
    spec.methods.map Method.name =
      (accessedFields object).flatMap accessorNames ++ ["equals", "hashCode"] ∧
    (check object = [] ↔ (spec.methods.map Method.name).Nodup) ∧
    (check object = [] → (spec.fields.map Member.name).Nodup) := by
  obtain ⟨methods, fields⟩ := names_entityClass made
  rw [names_entityMethods] at methods
  refine ⟨methods, ?_, fun silent => ?_⟩
  · rw [methods, check_eq_nil_iff_accessedFields, ← nodup_accessors_iff, List.nodup_append']
    have own : ["equals", "hashCode"].Nodup := by decide
    exact ⟨fun apart => ⟨apart, own, disjoint_accessorNames _⟩, fun apart => apart.1⟩
  · rw [fields]
    rw [check_eq_nil_iff_accessedFields] at silent
    have capitalized : (((accessedFields object).map Prod.fst).map Text.capitalize).Nodup := by
      rwa [List.map_map]
    exact capitalized.of_map _

/-- Two fields of an object that differ by the case of their first letter, one of them a flag: their
getters differ and their setters do not. -/
def flagged : BusinessObject where
  qualifiedName := "org.acme.Task"
  description := none
  fields := [⟨"done", .boolean, false, none⟩, ⟨"Done", .date, true, none⟩]
  queries := []
  uniqueConstraints := []

theorem entity_names_apart_flagged :
    ∃ spec, entityClass .client flagged = .ok spec ∧
      spec.methods.map Method.name =
        (accessedFields flagged).flatMap accessorNames ++ ["equals", "hashCode"] ∧
      (check flagged = [] ↔ (spec.methods.map Method.name).Nodup) ∧
      (check flagged = [] → (spec.fields.map Member.name).Nodup) := by
  obtain ⟨spec, made⟩ := Blueprint.exists_entityClass_eq_ok .client
    (show Blueprint.typeNameFault? flagged.qualifiedName = none by decide)
    (Blueprint.constraintsDeclared_of_eq_nil (show flagged.uniqueConstraints = [] from rfl))
  exact ⟨spec, made, entity_names_apart_iff made⟩

end Lint.DuplicateField

end EntityGen
