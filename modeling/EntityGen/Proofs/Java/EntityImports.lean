/-
  Proofs/Java/EntityImports.lean --- names in the files of an entity.

  Source: the specification, section 4.1 (target types) and section 4.2 (the client
  variant).

  The types of the members of an entity have simple names that no annotation and no
  generated type claims. They are therefore written alike in the files for servers and for
  clients, and both import the same types apart from those behind annotations.
-/
import EntityGen.Proofs.Java.Platform
import EntityGen.Proofs.Java.Settled

set_option autoImplicit false

namespace EntityGen.Java

open EntityGen.Blueprint (ClassSpec entityClass serverEntity)
open EntityGen.Model (BusinessObject)
open EntityGen.Naming (namespaceOf simpleNameOf)
open Resolver (isImportable)

/-! ## Types of members -/

/-- A type of the platform shares its simple name with no other type that entities mention, and its
simple name is reserved. -/
theorem platformTypes_apart :
    (∀ name ∈ platformTypes, ∀ other ∈ entityTypes,
      simpleNameOf other = simpleNameOf name → other = name) ∧
    (∀ name ∈ platformTypes, isImportable name = true) ∧
    ∀ name ∈ platformTypes, simpleNameOf name ∈ Blueprint.reservedSimpleNames := by
  decide +kernel

variable {declared : String} {calls : List String}

/-- A type of the platform owns its simple name, whatever else an entity mentions. -/
theorem owner?_platform (free : Blueprint.typeNameFault? declared = none)
    (subset : calls ⊆ entityTypes) {name : String} (platform : name ∈ platformTypes)
    (mem : name ∈ calls) : owner? (claimants declared calls) (simpleNameOf name) = some name := by
  obtain ⟨apart, importable, reserved⟩ := platformTypes_apart
  have claimant : name ∈ claimants declared calls :=
    List.mem_cons_of_mem _ (List.mem_filter.2 ⟨mem, importable name platform⟩)
  obtain ⟨owner, owns⟩ := exists_owner?_of_mem claimant
  have shared : simpleNameOf owner = simpleNameOf name := by simpa using List.find?_some owns
  rcases List.mem_cons.1 (mem_of_owner? owns) with rfl | called
  · have taken := reserved name platform
    rw [← shared] at taken
    exact absurd taken (simpleNameOf_not_mem_of_free free)
  · have same := apart name platform owner (subset (List.mem_filter.1 called).1) shared
    rw [owns, same]

/-- It is written by its simple name. -/
theorem answer_platform (free : Blueprint.typeNameFault? declared = none)
    (subset : calls ⊆ entityTypes) {name : String} (platform : name ∈ platformTypes)
    (mem : name ∈ calls) :
    (resolverAfter declared calls).answer (Resolver.resolve name) = simpleNameOf name := by
  have importable := platformTypes_apart.2.1 name platform
  rw [answer_resolve mem, spelling, if_pos ⟨importable, owner?_platform free subset platform mem⟩]

/-! ## Both variants of an entity -/

section Entities

variable {object : BusinessObject} {stored : ClassSpec}

theorem free_of_serverEntity (made : serverEntity object = .ok stored) :
    Blueprint.typeNameFault? stored.qualifiedName = none := by
  obtain ⟨free, table, -, rfl⟩ := Blueprint.serverEntity_eq_ok_iff.1 made
  exact free

theorem free_withoutPersistence (made : serverEntity object = .ok stored) :
    Blueprint.typeNameFault? stored.withoutPersistence.qualifiedName = none := by
  have free := free_of_serverEntity made
  exact free

theorem subset_server (made : serverEntity object = .ok stored) :
    classMentions stored ⊆ entityTypes := by
  have ofServer : entityClass .server object = .ok stored :=
    Blueprint.entityClass_eq_ok_iff.2 ⟨stored, made, rfl⟩
  exact classMentions_subset_entityTypes ofServer

theorem subset_client (made : serverEntity object = .ok stored) :
    classMentions stored.withoutPersistence ⊆ entityTypes := by
  have ofClient : entityClass .client object = .ok stored.withoutPersistence :=
    Blueprint.entityClass_eq_ok_iff.2 ⟨stored, made, rfl⟩
  exact classMentions_subset_entityTypes ofClient

/-- What asks for the types of members only writes the same in both files. -/
theorem answer_settled_eq (made : serverEntity object = .ok stored) {α : Type}
    {action : StateM Resolver α} {mentions : List String} (asks : Asks action mentions)
    (subset : mentions ⊆ memberTypes object) :
    (settled stored).answer action = (settled stored.withoutPersistence).answer action := by
  have free := free_of_serverEntity made
  have server : mentions ⊆ classMentions stored :=
    List.Subset.trans subset (memberTypes_subset_server made)
  have client : mentions ⊆ classMentions stored.withoutPersistence :=
    fun name mem => (mem_classMentions_client made).2 (subset mem)
  refine asks.answer_congr ((knows_settled stored).mono server)
    ((knows_settled stored.withoutPersistence).mono client) fun name mem => ?_
  have platform := memberTypes_subset_platformTypes object (subset mem)
  have one := answer_platform free (subset_server made) platform (server mem)
  have other := answer_platform free (subset_client made) platform (client mem)
  exact one.trans other.symm

/-! ## Imports -/

/-- The package of the annotations. -/
def storingPackage : String := "javax.persistence"

theorem mem_importedNames_settled {spec : ClassSpec} {name : String} :
    name ∈ (settled spec).importedNames ↔
      IsImported spec.qualifiedName ((classMentions spec).filter isImportable) name :=
  (represents_resolverAfter _ _).mem_importedNames

/-- What is imported is mentioned and does not lie in the implicit package. -/
theorem mentioned_of_imported {spec : ClassSpec} {name : String}
    (imported : name ∈ (settled spec).importedNames) :
    name ∈ classMentions spec ∧ namespaceOf name ≠ implicitPackage := by
  obtain ⟨mem, -, explicit, -⟩ := mem_importedNames_settled.1 imported
  exact ⟨(List.mem_filter.1 mem).1, explicit⟩

theorem pairwise_importedNames_settled (spec : ClassSpec) :
    (settled spec).importedNames.Pairwise fun a b => a < b :=
  (represents_resolverAfter _ _).pairwise_importedNames

/-- Types of the platform lie in the implicit package or in one of two others. -/
theorem namespaceOf_entityTypes :
    (∀ name ∈ platformTypes, namespaceOf name = implicitPackage ∨ namespaceOf name = "java.util") ∧
    (∀ name ∈ annotationTypes, namespaceOf name = implicitPackage ∨
      namespaceOf name = storingPackage) := by
  decide +kernel

/-- Types of the platform are imported where they are mentioned, unless they need no import. -/
theorem mem_importedNames_platform {spec : ClassSpec}
    (free : Blueprint.typeNameFault? spec.qualifiedName = none)
    (subset : classMentions spec ⊆ entityTypes) {name : String} (platform : name ∈ platformTypes) :
    name ∈ (settled spec).importedNames ↔
      name ∈ classMentions spec ∧ namespaceOf name ≠ implicitPackage := by
  constructor
  · exact mentioned_of_imported
  · rintro ⟨mem, explicit⟩
    have foreign : namespaceOf name ≠ namespaceOf spec.qualifiedName := by
      intro same
      rcases namespaceOf_entityTypes.1 name platform with implicit | util
      · exact explicit implicit
      · exact namespaceOf_ne_of_free free (by decide) (same.symm.trans util)
    have importable := platformTypes_apart.2.1 name platform
    have owns := owner?_platform free subset platform mem
    exact mem_importedNames_settled.2
      ⟨List.mem_filter.2 ⟨mem, importable⟩, owns, explicit, foreign⟩

/-- The interface of every entity is never imported: an annotation has its simple name and claims it
first. -/
theorem entityMarker_not_imported (made : serverEntity object = .ok stored) :
    Blueprint.entityMarker ∉ (settled stored).importedNames := by
  rw [mem_importedNames_settled]
  rintro ⟨-, owns, -⟩
  have first : ∃ rest, classMentions stored = annotationType .entity :: rest := by
    obtain ⟨-, table, -, rfl⟩ := Blueprint.serverEntity_eq_ok_iff.1 made
    exact ⟨_, rfl⟩
  obtain ⟨rest, mentions⟩ := first
  have free := simpleNameOf_not_mem_of_free (free_of_serverEntity made)
  have other : simpleNameOf stored.qualifiedName ≠ simpleNameOf Blueprint.entityMarker := by
    intro same
    rw [same] at free
    exact free (by decide)
  rw [mentions, List.filter_cons_of_pos (by decide), owner?, List.find?_cons_of_neg (by simpa),
    List.find?_cons_of_pos (by decide)] at owns
  exact absurd owns (by decide)

/-- Without those from the package of the annotations, the imports of both files are the same. -/
theorem filter_importedNames (made : serverEntity object = .ok stored) :
    ((settled stored).importedNames.filter fun name => namespaceOf name != storingPackage) =
      (settled stored.withoutPersistence).importedNames := by
  have free := free_of_serverEntity made
  have free' := free_withoutPersistence made
  refine Text.eq_of_pairwise_lt ((pairwise_importedNames_settled stored).filter _)
    (pairwise_importedNames_settled _) fun name => ?_
  rw [List.mem_filter]
  constructor
  · rintro ⟨imported, outside⟩
    obtain ⟨mem, explicit⟩ := mentioned_of_imported imported
    rcases mem_classMentions_server made mem with member | tag | rfl
    · have platform := memberTypes_subset_platformTypes object member
      refine (mem_importedNames_platform free' (subset_client made) platform).2 ⟨?_, explicit⟩
      exact (mem_classMentions_client made).2 member
    · rcases namespaceOf_entityTypes.2 name tag with implicit | storing
      · exact absurd implicit explicit
      · simp [storing] at outside
    · exact absurd imported (entityMarker_not_imported made)
  · intro imported
    obtain ⟨mem, explicit⟩ := mentioned_of_imported imported
    have member := (mem_classMentions_client made).1 mem
    have platform := memberTypes_subset_platformTypes object member
    refine ⟨?_, ?_⟩
    · refine (mem_importedNames_platform free (subset_server made) platform).2 ⟨?_, explicit⟩
      exact memberTypes_subset_server made member
    · rcases namespaceOf_entityTypes.1 name platform with implicit | util
      · exact absurd implicit explicit
      · simp [util, storingPackage]

/-- The class of moments in time. -/
def dateClass : String := "java.util.Date"

/-- The members of an entity mention moments in time exactly if there is a field of them. -/
theorem dateClass_mem_memberTypes_iff :
    dateClass ∈ memberTypes object ↔ ∃ field ∈ object.fields, field.type = .date := by
  have common : dateClass ∉ commonTypes := by decide
  have each : ∀ type : Model.FieldType,
      dateClass ∈ typeMentions (Blueprint.memberType type) ↔ type = .date := by
    intro type
    cases type <;> decide
  simp only [memberTypes, fieldTypes, List.mem_append, List.mem_flatMap, common, or_false, each]

/-- The file for clients imports these two classes if a member is of them or needs them. -/
theorem mem_importedNames_client_iff (made : serverEntity object = .ok stored) {name : String} :
    name ∈ (settled stored.withoutPersistence).importedNames ↔
      name ∈ memberTypes object ∧ (name = dateClass ∨ name = objectsClass) := by
  have known : ∀ name ∈ platformTypes, namespaceOf name ≠ implicitPackage →
      name = dateClass ∨ name = objectsClass := by
    decide +kernel
  constructor
  · intro imported
    obtain ⟨mem, explicit⟩ := mentioned_of_imported imported
    have member := (mem_classMentions_client made).1 mem
    exact ⟨member, known name (memberTypes_subset_platformTypes object member) explicit⟩
  · rintro ⟨member, which⟩
    have platform := memberTypes_subset_platformTypes object member
    refine (mem_importedNames_platform (free_withoutPersistence made) (subset_client made)
      platform).2 ⟨(mem_classMentions_client made).2 member, ?_⟩
    rcases which with rfl | rfl
    · decide
    · decide

/-- The file for clients imports the class that compares and hashes values, and that of moments in
time if there is a field of them. -/
theorem importedNames_client (made : serverEntity object = .ok stored) :
    (settled stored.withoutPersistence).importedNames =
      (if ∃ field ∈ object.fields, field.type = .date then [dateClass] else []) ++
        [objectsClass] := by
  have objects : objectsClass ∈ memberTypes object :=
    List.mem_append_right _ (by decide)
  refine Text.eq_of_pairwise_lt (pairwise_importedNames_settled _) ?_ fun name => ?_
  · split
    · decide
    · exact List.pairwise_singleton _ _
  · rw [mem_importedNames_client_iff made]
    by_cases date : ∃ field ∈ object.fields, field.type = .date
    · have dated := dateClass_mem_memberTypes_iff.2 date
      simp only [if_pos date, List.mem_append, List.mem_singleton]
      constructor
      · exact fun here => here.2
      · rintro (rfl | rfl)
        · exact ⟨dated, Or.inl rfl⟩
        · exact ⟨objects, Or.inr rfl⟩
    · simp only [if_neg date, List.nil_append, List.mem_singleton]
      constructor
      · rintro ⟨member, rfl | rfl⟩
        · exact absurd (dateClass_mem_memberTypes_iff.1 member) date
        · rfl
      · rintro rfl
        exact ⟨objects, Or.inr rfl⟩

end Entities

end EntityGen.Java
