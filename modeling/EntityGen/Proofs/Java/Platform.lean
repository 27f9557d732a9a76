/-
  Proofs/Java/Platform.lean --- types of the platform.

  Source: the specification, section 4.2: reserved built-in simple names cannot be
  generated.

  The types of the platform that generated code mentions by simple name and without
  an import have reserved simple names, which no generated type of a clean model has.
  Entities mention no other types of the implicit package.
-/
import EntityGen.Proofs.Compile.Check
import EntityGen.Proofs.Java.Mentions

set_option autoImplicit false

namespace EntityGen.Java

open EntityGen.Blueprint (ClassSpec Primitive Tag TagKind TagValue TypeRef Variant daoName entityClass
  memberType reservedSimpleNames)
open EntityGen.Compile (Clean generatedNames)
open EntityGen.Model (BusinessObject DataModel FieldType)
open EntityGen.Naming (namespaceOf simpleNameOf)

/-! ## Names of generated types -/

/-- A free name has a package. -/
theorem packaged_of_free {name : String} (free : Blueprint.typeNameFault? name = none) :
    (namespaceOf name).isEmpty = false := by
  unfold Blueprint.typeNameFault? at free
  split at free
  · cases free
  · rename_i packaged
    simpa using packaged

/-- A free name does not lie in a package of the platform. -/
theorem namespaceOf_ne_of_free {name packageName : String}
    (free : Blueprint.typeNameFault? name = none)
    (reserved : ∃ start ∈ Blueprint.reservedBeginnings,
      start.toList.isPrefixOf (packageName ++ ".").toList = true) :
    namespaceOf name ≠ packageName := by
  intro inside
  obtain ⟨start, listed, lead⟩ := reserved
  have whole := Naming.dotted_namespaceOf (packaged_of_free free)
  have begins : start.toList <+: name.toList := by
    rw [← whole, inside, Naming.dotted, String.toList_append]
    exact (List.isPrefixOf_iff_prefix.1 lead).trans (List.prefix_append _ _)
  have refused : (Blueprint.reservedBeginnings.any fun start =>
      start.toList.isPrefixOf name.toList) = true :=
    List.any_eq_true.2 ⟨start, listed, List.isPrefixOf_iff_prefix.2 begins⟩
  unfold Blueprint.typeNameFault? at free
  rw [if_neg (by simp [packaged_of_free free]), if_pos refused] at free
  cases free

/-- A free name has a simple name that is not reserved. -/
theorem simpleNameOf_not_mem_of_free {name : String}
    (free : Blueprint.typeNameFault? name = none) : simpleNameOf name ∉ reservedSimpleNames := by
  intro reserved
  unfold Blueprint.typeNameFault? at free
  split at free
  · cases free
  · split at free
    · cases free
    · rw [if_pos (by simpa using reserved)] at free
      cases free

theorem namespaceOf_daoName {object : BusinessObject}
    (free : Blueprint.typeNameFault? object.qualifiedName = none) :
    namespaceOf (daoName object) = namespaceOf object.qualifiedName :=
  Naming.namespaceOf_append (packaged_of_free free) (by decide)

/-- No reserved simple name is that of an interface. -/
theorem simpleNameOf_daoName_not_mem {object : BusinessObject}
    (free : Blueprint.typeNameFault? object.qualifiedName = none) :
    simpleNameOf (daoName object) ∉ reservedSimpleNames := by
  rw [daoName, Naming.simpleNameOf_append (packaged_of_free free) (by decide)]
  exact Text.append_not_mem_of_tail (by decide) _

/-- The simple names of the types of a clean model are not reserved. -/
theorem simpleNameOf_generated_not_mem {model : DataModel} (clean : Clean model) {name : String}
    (mem : name ∈ generatedNames model) : simpleNameOf name ∉ reservedSimpleNames := by
  obtain ⟨object, listed, rfl | rfl⟩ := Compile.mem_generatedNames.1 mem
  · exact simpleNameOf_not_mem_of_free (clean.typeNames object listed)
  · exact simpleNameOf_daoName_not_mem (clean.typeNames object listed)

/-! ## Annotations -/

/-- The types behind annotations. -/
def annotationTypes : List String :=
  TagKind.all.map annotationType ++ TagKind.all.flatMap fun kind => (constantType? kind).toList

theorem mem_all (kind : TagKind) : kind ∈ TagKind.all := by
  cases kind <;> decide

theorem annotationType_mem (kind : TagKind) : annotationType kind ∈ annotationTypes :=
  List.mem_append_left _ (List.mem_map.2 ⟨kind, mem_all kind, rfl⟩)

theorem constantType_mem (kind : TagKind) :
    ∀ name ∈ (constantType? kind).toList, name ∈ annotationTypes :=
  fun _ mem => List.mem_append_right _ (List.mem_flatMap.2 ⟨kind, mem_all kind, mem⟩)

mutual

theorem tagMentions_subset (tag : Tag) : tagMentions tag ⊆ annotationTypes := by
  cases tag with
  | mk kind attributes =>
    unfold tagMentions
    exact List.cons_subset.2 ⟨annotationType_mem kind, attributeMentions_subset kind attributes⟩

theorem attributeMentions_subset (kind : TagKind) (attributes : List (String × TagValue)) :
    attributeMentions kind attributes ⊆ annotationTypes := by
  cases attributes with
  | nil => exact List.nil_subset _
  | cons pair rest =>
    obtain ⟨key, value⟩ := pair
    unfold attributeMentions
    exact List.append_subset.2 ⟨valueMentions_subset kind value, attributeMentions_subset kind rest⟩

theorem valueMentions_subset (kind : TagKind) (value : TagValue) :
    valueMentions kind value ⊆ annotationTypes := by
  cases value with
  | constant constant => exact constantType_mem kind
  | tags nested =>
    unfold valueMentions
    exact nestedMentions_subset nested
  | text text => exact List.nil_subset _
  | flag value => exact List.nil_subset _
  | number value => exact List.nil_subset _
  | texts items => exact List.nil_subset _

theorem nestedMentions_subset (tags : List Tag) : nestedMentions tags ⊆ annotationTypes := by
  cases tags with
  | nil => exact List.nil_subset _
  | cons tag rest =>
    unfold nestedMentions
    exact List.append_subset.2 ⟨tagMentions_subset tag, nestedMentions_subset rest⟩

end

theorem flatMap_tagMentions_subset (tags : List Tag) :
    tags.flatMap tagMentions ⊆ annotationTypes := by
  intro name mem
  obtain ⟨tag, -, here⟩ := List.mem_flatMap.1 mem
  exact tagMentions_subset tag here

/-! ## Entities -/

/-- The types that the members of every entity mention. -/
def commonTypes : List String :=
  ["java.lang.Long", "java.lang.Object", "java.lang.Override", objectsClass]

/-- The types of the fields of an object, field by field. -/
def fieldTypes (object : BusinessObject) : List String :=
  object.fields.flatMap fun field => typeMentions (memberType field.type)

/-- The types that the members of an entity mention, apart from those behind annotations of fields. -/
def memberTypes (object : BusinessObject) : List String :=
  fieldTypes object ++ commonTypes

theorem mem_memberTypes_of_field {object : BusinessObject} {field : Model.Field}
    (listed : field ∈ object.fields) {name : String}
    (mem : name ∈ typeMentions (memberType field.type)) : name ∈ memberTypes object :=
  List.mem_append_left _ (List.mem_flatMap.2 ⟨field, listed, mem⟩)

/-- The methods that read and write a field mention the type of the field. -/
theorem methodMentions_accessors {name : String} {member : TypeRef} {type : FieldType}
    {method : Blueprint.Method} (mem : method ∈ Blueprint.accessors name member type) :
    methodMentions method = typeMentions member := by
  simp only [Blueprint.accessors, List.mem_cons, List.not_mem_nil, or_false] at mem
  rcases mem with rfl | rfl
  · simp [methodMentions, typeMentions, bodyMentions]
  · simp [methodMentions, bodyMentions]

theorem methodMentions_equals (object : BusinessObject) :
    methodMentions (Blueprint.equalsMethod object) =
      ["java.lang.Override", "java.lang.Object", objectsClass] := by
  have compared : (Blueprint.comparedFields object).isEmpty = false := by
    simp [Blueprint.comparedFields]
  simp [methodMentions, Blueprint.equalsMethod, bodyMentions, compared, typeMentions, plainMentions,
    Tag.ofKind, tagMentions, attributeMentions, annotationType]

theorem methodMentions_hashCode (object : BusinessObject) :
    methodMentions (Blueprint.hashCodeMethod object) = ["java.lang.Override", objectsClass] :=
  rfl

/-- The methods of an entity mention the types of its members. -/
theorem methodMentions_subset {object : BusinessObject} {method : Blueprint.Method}
    (mem : method ∈ Blueprint.entityMethods object) :
    methodMentions method ⊆ memberTypes object := by
  have common : ∀ {names : List String}, names ⊆ commonTypes → names ⊆ memberTypes object :=
    fun subset => List.Subset.trans subset (List.subset_append_right _ _)
  simp only [Blueprint.entityMethods, List.mem_append] at mem
  rcases mem with ((declared | id) | version) | comparing
  · obtain ⟨field, listed, here⟩ := List.mem_flatMap.1 declared
    rw [methodMentions_accessors here]
    exact fun name => mem_memberTypes_of_field listed
  · rw [methodMentions_accessors id]
    exact common (by decide)
  · rw [methodMentions_accessors version]
    exact common (by decide)
  · simp only [List.mem_cons, List.not_mem_nil, or_false] at comparing
    rcases comparing with rfl | rfl
    · rw [methodMentions_equals]
      exact common (by decide)
    · rw [methodMentions_hashCode]
      exact common (by decide)

/-- Who has the fields and the methods of an entity mentions the types of its members. -/
theorem memberTypes_subset {object : BusinessObject} {spec : ClassSpec}
    (fields : ∀ field ∈ object.fields, ∃ member ∈ spec.fields, member.type = memberType field.type)
    (methods : spec.methods = Blueprint.entityMethods object) :
    memberTypes object ⊆ classMentions spec := by
  have ofMethod : ∀ method ∈ Blueprint.entityMethods object,
      methodMentions method ⊆ classMentions spec := by
    intro method mem name here
    simp only [classMentions, List.mem_append]
    exact Or.inr (Or.inr (Or.inr (List.mem_flatMap.2 ⟨method, methods ▸ mem, here⟩)))
  have id : Blueprint.accessors Blueprint.persistenceId Blueprint.generatedType .long ⊆
      Blueprint.entityMethods object :=
    fun method mem => by simp [Blueprint.entityMethods, mem]
  have equals : Blueprint.equalsMethod object ∈ Blueprint.entityMethods object := by
    simp [Blueprint.entityMethods]
  refine List.append_subset.2 ⟨fun name mem => ?_, fun name mem => ?_⟩
  · obtain ⟨field, listed, here⟩ := List.mem_flatMap.1 mem
    obtain ⟨member, among, same⟩ := fields field listed
    simp only [classMentions, List.mem_append]
    refine Or.inr (Or.inr (Or.inl (List.mem_flatMap.2 ⟨member, among, ?_⟩)))
    exact List.mem_append_right _ (same ▸ here)
  · simp only [commonTypes, List.mem_cons, List.not_mem_nil, or_false] at mem
    have compared := ofMethod _ equals
    rw [methodMentions_equals] at compared
    rcases mem with rfl | rfl | rfl | rfl
    · exact ofMethod _ (id List.mem_cons_self) (by decide)
    · exact compared (by decide)
    · exact compared (by decide)
    · exact compared (by decide)

/-- The members of the class of an object that is stored mention the types of its fields. -/
theorem typeMentions_subset {object : BusinessObject} {spec : ClassSpec}
    (made : Blueprint.serverEntity object = .ok spec) {member : Blueprint.Member}
    (mem : member ∈ spec.fields) : typeMentions member.type ⊆ memberTypes object := by
  obtain ⟨-, table, -, rfl⟩ := Blueprint.serverEntity_eq_ok_iff.1 made
  rcases List.mem_append.1 mem with declared | generated
  · obtain ⟨field, listed, rfl⟩ := List.mem_map.1 declared
    exact fun name => mem_memberTypes_of_field listed
  · have long : typeMentions Blueprint.generatedType ⊆ memberTypes object :=
      List.Subset.trans (by decide) (List.subset_append_right _ commonTypes)
    simp only [List.mem_cons, List.not_mem_nil, or_false] at generated
    rcases generated with rfl | rfl
    · exact long
    · exact long

/-- What the class for servers mentions are the types of the members, those behind annotations, and
the interface of every entity. -/
theorem mem_classMentions_server {object : BusinessObject} {spec : ClassSpec}
    (made : Blueprint.serverEntity object = .ok spec) {name : String} :
    name ∈ classMentions spec →
      name ∈ memberTypes object ∨ name ∈ annotationTypes ∨ name = Blueprint.entityMarker := by
  intro mem
  simp only [classMentions, List.mem_append] at mem
  rcases mem with tag | interface | field | method
  · exact Or.inr (Or.inl (flatMap_tagMentions_subset _ tag))
  · obtain ⟨-, table, -, rfl⟩ := Blueprint.serverEntity_eq_ok_iff.1 made
    exact Or.inr (Or.inr (List.mem_singleton.1 interface))
  · obtain ⟨member, listed, here⟩ := List.mem_flatMap.1 field
    rcases List.mem_append.1 here with tag | type
    · exact Or.inr (Or.inl (flatMap_tagMentions_subset _ tag))
    · exact Or.inl (typeMentions_subset made listed type)
  · obtain ⟨member, listed, here⟩ := List.mem_flatMap.1 method
    obtain ⟨-, table, -, rfl⟩ := Blueprint.serverEntity_eq_ok_iff.1 made
    exact Or.inl (methodMentions_subset listed here)

theorem memberTypes_subset_server {object : BusinessObject} {spec : ClassSpec}
    (made : Blueprint.serverEntity object = .ok spec) :
    memberTypes object ⊆ classMentions spec := by
  obtain ⟨-, table, -, rfl⟩ := Blueprint.serverEntity_eq_ok_iff.1 made
  refine memberTypes_subset (fun field listed => ?_) rfl
  exact ⟨_, List.mem_append_left _ (List.mem_map.2 ⟨field, listed, rfl⟩), rfl⟩

/-- What the class for clients mentions are the types of the members. -/
theorem mem_classMentions_client {object : BusinessObject} {spec : ClassSpec}
    (made : Blueprint.serverEntity object = .ok spec) {name : String} :
    name ∈ classMentions spec.withoutPersistence ↔ name ∈ memberTypes object := by
  constructor
  · intro mem
    rw [Blueprint.withoutPersistence_of_serverEntity made] at mem
    simp only [classMentions, List.mem_append, List.flatMap_nil, List.not_mem_nil, false_or] at mem
    rcases mem with field | method
    · obtain ⟨bare, listed, here⟩ := List.mem_flatMap.1 field
      obtain ⟨member, among, rfl⟩ := List.mem_map.1 listed
      exact typeMentions_subset made among here
    · obtain ⟨member, listed, here⟩ := List.mem_flatMap.1 method
      obtain ⟨-, table, -, rfl⟩ := Blueprint.serverEntity_eq_ok_iff.1 made
      exact methodMentions_subset listed here
  · intro mem
    refine memberTypes_subset (fun field listed => ?_) ?_ mem
    · obtain ⟨-, table, -, rfl⟩ := Blueprint.serverEntity_eq_ok_iff.1 made
      refine ⟨_, List.mem_map.2 ⟨Blueprint.fieldMember field, ?_, rfl⟩, rfl⟩
      exact List.mem_append_left _ (List.mem_map.2 ⟨field, listed, rfl⟩)
    · rw [Blueprint.withoutPersistence_of_serverEntity made]
      obtain ⟨-, table, -, rfl⟩ := Blueprint.serverEntity_eq_ok_iff.1 made
      rfl

/-! ## Types of the platform -/

/-- The types of the platform that the members of entities mention. -/
def platformTypes : List String := [
  "java.lang.Boolean", "java.lang.Double", "java.lang.Float", "java.lang.Integer",
  "java.lang.Long", "java.lang.Object", "java.lang.Override", "java.lang.String",
  "java.util.Date", objectsClass]

theorem boxedMentions_subset (type : Primitive) : boxedMentions type ⊆ platformTypes := by
  cases type <;> decide

theorem memberTypes_subset_platformTypes (object : BusinessObject) :
    memberTypes object ⊆ platformTypes := by
  refine List.append_subset.2 ⟨fun name mem => ?_, by decide⟩
  obtain ⟨field, -, here⟩ := List.mem_flatMap.1 mem
  exact boxedMentions_subset _ here

/-- The types that entities mention. -/
def entityTypes : List String :=
  platformTypes ++ annotationTypes ++ [Blueprint.entityMarker]

theorem classMentions_subset_entityTypes {variant : Variant} {object : BusinessObject}
    {spec : ClassSpec} (made : entityClass variant object = .ok spec) :
    classMentions spec ⊆ entityTypes := by
  obtain ⟨stored, built, rfl⟩ := Blueprint.entityClass_eq_ok_iff.1 made
  have ofMember : ∀ {name}, name ∈ memberTypes object → name ∈ entityTypes := by
    intro name mem
    have platform := memberTypes_subset_platformTypes object mem
    simp [entityTypes, platform]
  intro name mem
  cases variant with
  | server =>
    rcases mem_classMentions_server built mem with member | tag | rfl
    · exact ofMember member
    · simp [entityTypes, tag]
    · simp [entityTypes]
  | client => exact ofMember ((mem_classMentions_client built).1 mem)

/-- The reference types of built-in types have reserved simple names. -/
theorem reserved_boxedMentions (type : Primitive) :
    ∀ name ∈ boxedMentions type, simpleNameOf name ∈ reservedSimpleNames := by
  cases type <;> decide

/-- Types of the implicit package that entities mention have reserved simple names. -/
theorem reserved_of_implicit {name : String} (mem : name ∈ entityTypes)
    (implicit : namespaceOf name = implicitPackage) :
    simpleNameOf name ∈ reservedSimpleNames := by
  have all : ∀ name ∈ entityTypes, namespaceOf name = implicitPackage →
      simpleNameOf name ∈ reservedSimpleNames := by
    decide +kernel
  exact all name mem implicit

end EntityGen.Java
