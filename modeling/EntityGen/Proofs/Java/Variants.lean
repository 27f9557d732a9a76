/-
  Proofs/Java/Variants.lean --- servers and clients.

  Source: the specification, section 4.2 (client variant): the same fields, accessors,
  `equals` and `hashCode`, no persistence tags, no marker.

  The file of an entity for clients is the file for servers without what is about storing:
  the imports from the package of the annotations, the annotations that say how objects are
  stored, and the clause of the interfaces. Everything else is the same in both, character
  for character.
-/
import EntityGen.Proofs.Java.EntityImports
import EntityGen.Proofs.Java.Stretches

set_option autoImplicit false

namespace EntityGen.Java

open EntityGen.Blueprint (ClassSpec Member Method Tag entityClass serverEntity)
open EntityGen.Model (BusinessObject)
open EntityGen.Naming (namespaceOf)
open Stretch (textOf ofCode)

/-! ## What is about storing -/

/-- The stretch is about how objects are stored. -/
def Origin.isPersistence : Origin → Bool
  | .code => false
  | .importOf name => namespaceOf name == storingPackage
  | .annotationOf tag => tag.kind.isPersistence
  | .interfaces => true

/-- The stretch is about how objects are stored. -/
def Stretch.isPersistence (stretch : Stretch) : Bool :=
  stretch.origin.isPersistence

/-- The stretches that are not about how objects are stored. -/
def kept (stretches : List Stretch) : List Stretch :=
  stretches.filter fun stretch => !stretch.isPersistence

/-- The stretches that are. -/
def erased (stretches : List Stretch) : List Stretch :=
  stretches.filter Stretch.isPersistence

theorem kept_append (stretches more : List Stretch) :
    kept (stretches ++ more) = kept stretches ++ kept more :=
  List.filter_append ..

theorem kept_flatMap {α : Type} (parts : α → List Stretch) (items : List α) :
    kept (items.flatMap parts) = items.flatMap fun item => kept (parts item) := by
  induction items with
  | nil => rfl
  | cons item rest ih => rw [List.flatMap_cons, kept_append, ih, List.flatMap_cons]

theorem erased_append (stretches more : List Stretch) :
    erased (stretches ++ more) = erased stretches ++ erased more :=
  List.filter_append ..

theorem erased_flatMap {α : Type} (parts : α → List Stretch) (items : List α) :
    erased (items.flatMap parts) = items.flatMap fun item => erased (parts item) := by
  induction items with
  | nil => rfl
  | cons item rest ih => rw [List.flatMap_cons, erased_append, ih, List.flatMap_cons]

@[simp] theorem kept_ofCode_cons (text : String) (rest : List Stretch) :
    kept (ofCode text :: rest) = ofCode text :: kept rest :=
  List.filter_cons_of_pos rfl

@[simp] theorem erased_ofCode_cons (text : String) (rest : List Stretch) :
    erased (ofCode text :: rest) = erased rest :=
  List.filter_cons_of_neg (by simp [ofCode, Stretch.isPersistence, Origin.isPersistence])

variable {names : Resolver}

/-- Annotations of tags that are all about storing are erased. -/
theorem kept_tagStretches_of_persistence {level : Nat} {tags : List Tag}
    (all : ∀ tag ∈ tags, tag.kind.isPersistence = true) :
    kept (tagStretches names level tags) = [] ∧
      erased (tagStretches names level tags) = tagStretches names level tags := by
  constructor
  · refine List.filter_eq_nil_iff.2 fun stretch mem => ?_
    obtain ⟨tag, listed, rfl⟩ := List.mem_map.1 mem
    simp [Stretch.isPersistence, Origin.isPersistence, all tag listed]
  · refine List.filter_eq_self.2 fun stretch mem => ?_
    obtain ⟨tag, listed, rfl⟩ := List.mem_map.1 mem
    exact all tag listed

/-- Annotations of tags none of which is about storing stay. -/
theorem kept_tagStretches_of_not_persistence {level : Nat} {tags : List Tag}
    (none : ∀ tag ∈ tags, tag.kind.isPersistence = false) :
    kept (tagStretches names level tags) = tagStretches names level tags ∧
      erased (tagStretches names level tags) = [] := by
  constructor
  · refine List.filter_eq_self.2 fun stretch mem => ?_
    obtain ⟨tag, listed, rfl⟩ := List.mem_map.1 mem
    simp [Stretch.isPersistence, Origin.isPersistence, none tag listed]
  · refine List.filter_eq_nil_iff.2 fun stretch mem => ?_
    obtain ⟨tag, listed, rfl⟩ := List.mem_map.1 mem
    simp [Stretch.isPersistence, Origin.isPersistence, none tag listed]

/-- The clause of the interfaces is erased. -/
theorem kept_interfaceStretches (names : Resolver) (spec : ClassSpec) :
    kept (interfaceStretches names spec) = [] ∧
      erased (interfaceStretches names spec) = interfaceStretches names spec := by
  unfold interfaceStretches
  simp only
  split
  · exact ⟨rfl, rfl⟩
  · exact ⟨rfl, rfl⟩

/-- Of the imports those from other packages than that of the annotations stay. -/
theorem kept_importStretches {names others : Resolver}
    (same : (names.importedNames.filter fun name => namespaceOf name != storingPackage) =
      others.importedNames) :
    kept (importStretches names) = importStretches others := by
  rw [importStretches, importStretches, ← same, kept, List.filter_map]
  rfl

/-! ## Parts of an entity -/

section Entities

variable {object : BusinessObject} {stored : ClassSpec}

theorem isEmpty_importedNames_client (made : serverEntity object = .ok stored) :
    (settled stored.withoutPersistence).importedNames.isEmpty = false := by
  rw [importedNames_client made]
  simp

theorem isEmpty_importedNames_server (made : serverEntity object = .ok stored) :
    (settled stored).importedNames.isEmpty = false := by
  have some := isEmpty_importedNames_client made
  rw [← filter_importedNames made] at some
  cases listed : (settled stored).importedNames with
  | nil =>
    rw [listed] at some
    exact some
  | cons first rest => rfl

theorem kept_headerStretches (made : serverEntity object = .ok stored) :
    kept (headerStretches (settled stored) stored) =
      headerStretches (settled stored.withoutPersistence) stored.withoutPersistence := by
  have package : stored.withoutPersistence.packageName = stored.packageName := rfl
  unfold headerStretches
  rw [isEmpty_importedNames_client made, isEmpty_importedNames_server made, package, kept_append]
  simp only [Bool.false_eq_true, if_false, kept_append,
    kept_importStretches (filter_importedNames made)]
  split
  · rfl
  · rfl

theorem kept_declarationStretches (made : serverEntity object = .ok stored) :
    kept (declarationStretches (settled stored) stored) =
      declarationStretches (settled stored.withoutPersistence) stored.withoutPersistence := by
  have ofClass := (Blueprint.isPersistence_of_serverEntity made).1
  have tags : stored.withoutPersistence.tags = [] := Blueprint.withoutPersistence_eq_nil ofClass
  have clause : interfaceStretches (settled stored.withoutPersistence)
      stored.withoutPersistence = [] := rfl
  unfold declarationStretches
  rw [tags, clause]
  simp only [kept_append, kept_ofCode_cons, List.cons_append,
    (kept_tagStretches_of_persistence ofClass).1, (kept_interfaceStretches _ stored).1]
  rfl

/-- A field for servers is that for clients behind its annotations. -/
theorem kept_memberStretches (made : serverEntity object = .ok stored) {member : Member}
    (mem : member ∈ stored.fields) :
    kept (memberStretches (settled stored) member) =
      memberStretches (settled stored.withoutPersistence) (bareMember member) := by
  have ofField := (Blueprint.isPersistence_of_serverEntity made).2 member mem
  have mentions : fieldMentions (bareMember member) ⊆ memberTypes object := by
    rw [fieldMentions_bareMember]
    exact typeMentions_subset made mem
  have alike := answer_settled_eq made (asks_memberFragments (bareMember member)) mentions
  unfold memberStretches
  simp only [kept_append, kept_ofCode_cons, List.cons_append,
    (kept_tagStretches_of_persistence ofField).1, alike]
  rfl

/-- A method is the same for servers and for clients. -/
theorem kept_methodStretches (made : serverEntity object = .ok stored) {method : Method}
    (mem : method ∈ stored.methods) :
    kept (methodStretches (settled stored) stored.simpleName method) =
      methodStretches (settled stored.withoutPersistence) stored.simpleName method := by
  obtain ⟨-, table, -, whole⟩ := Blueprint.serverEntity_eq_ok_iff.1 made
  have listed : method ∈ Blueprint.entityMethods object := by
    rw [whole] at mem
    exact mem
  have untagged := Blueprint.isPersistence_entityMethods listed
  have mentions := methodMentions_subset listed
  have bare : methodMentions (bareMethod method) ⊆ methodMentions method :=
    fun name here => List.mem_append_right _ here
  have alike := answer_settled_eq made (asks_methodFragments stored.simpleName (bareMethod method))
    (List.Subset.trans bare mentions)
  have annotated : tagStretches (settled stored) 1 method.tags =
      tagStretches (settled stored.withoutPersistence) 1 method.tags := by
    refine List.map_congr_left fun tag tagged => ?_
    have inside : tagMentions tag ⊆ methodMentions method := fun name here =>
      List.mem_append_left _ (List.mem_flatMap.2 ⟨tag, tagged, here⟩)
    have same : annotationLines (settled stored) tag =
        annotationLines (settled stored.withoutPersistence) tag :=
      answer_settled_eq made (asks_tag tag) (List.Subset.trans inside mentions)
    rw [same]
  unfold methodStretches
  simp only [kept_append, kept_ofCode_cons, List.cons_append,
    (kept_tagStretches_of_not_persistence untagged).1, alike, annotated]
  rfl

theorem kept_bodyStretches (made : serverEntity object = .ok stored) :
    kept (bodyStretches (settled stored) stored) =
      bodyStretches (settled stored.withoutPersistence) stored.withoutPersistence := by
  have name : stored.withoutPersistence.simpleName = stored.simpleName := rfl
  have fields : stored.withoutPersistence.fields = stored.fields.map bareMember := by
    rw [Blueprint.withoutPersistence_of_serverEntity made]
    rfl
  have methods : stored.withoutPersistence.methods = stored.methods := by
    rw [Blueprint.withoutPersistence_of_serverEntity made]
  unfold bodyStretches
  rw [name, fields, methods, kept_append, kept_append, kept_flatMap, kept_flatMap,
    List.flatMap_map]
  congr 1
  congr 1
  · exact List.flatMap_congr fun member mem => kept_memberStretches made mem
  · exact List.flatMap_congr fun method mem => kept_methodStretches made mem

/-- What stays of the file for servers are the stretches of the file for clients. -/
theorem kept_stretches (made : serverEntity object = .ok stored) :
    kept (stretches stored) = stretches stored.withoutPersistence := by
  rw [stretches, stretches, kept_append, kept_append, kept_headerStretches made,
    kept_declarationStretches made, kept_bodyStretches made]

/-- Of what stands before the class only imports are erased. -/
theorem erased_headerStretches (made : serverEntity object = .ok stored) :
    erased (headerStretches (settled stored) stored) =
      erased (importStretches (settled stored)) := by
  have package : erased (if stored.packageName.isEmpty then []
      else [ofCode s!"package {stored.packageName};\n\n"]) = [] := by
    split
    · rfl
    · rfl
  unfold headerStretches
  rw [isEmpty_importedNames_server made, erased_append, if_neg Bool.false_ne_true, erased_append,
    package, List.nil_append]
  exact List.append_nil _

theorem erased_declarationStretches (made : serverEntity object = .ok stored) :
    erased (declarationStretches (settled stored) stored) =
      tagStretches (settled stored) 0 stored.tags ++
        interfaceStretches (settled stored) stored := by
  have ofClass := (Blueprint.isPersistence_of_serverEntity made).1
  unfold declarationStretches
  simp only [erased_append, erased_ofCode_cons, List.cons_append,
    (kept_tagStretches_of_persistence ofClass).2, (kept_interfaceStretches _ stored).2]
  exact List.append_nil _

theorem erased_memberStretches (made : serverEntity object = .ok stored) {member : Member}
    (mem : member ∈ stored.fields) :
    erased (memberStretches (settled stored) member) =
      tagStretches (settled stored) 1 member.tags := by
  have ofField := (Blueprint.isPersistence_of_serverEntity made).2 member mem
  unfold memberStretches
  simp only [erased_append, erased_ofCode_cons, List.cons_append,
    (kept_tagStretches_of_persistence ofField).2]
  exact List.append_nil _

/-- Nothing of a method is erased. -/
theorem erased_methodStretches (made : serverEntity object = .ok stored) {method : Method}
    (mem : method ∈ stored.methods) :
    erased (methodStretches (settled stored) stored.simpleName method) = [] := by
  obtain ⟨-, table, -, whole⟩ := Blueprint.serverEntity_eq_ok_iff.1 made
  have listed : method ∈ Blueprint.entityMethods object := by
    rw [whole] at mem
    exact mem
  have untagged := Blueprint.isPersistence_entityMethods listed
  unfold methodStretches
  simp only [erased_append, erased_ofCode_cons, List.cons_append,
    (kept_tagStretches_of_not_persistence untagged).2]
  rfl

theorem erased_bodyStretches (made : serverEntity object = .ok stored) :
    erased (bodyStretches (settled stored) stored) =
      stored.fields.flatMap fun member => tagStretches (settled stored) 1 member.tags := by
  have fields : ∀ member ∈ stored.fields, erased (memberStretches (settled stored) member) =
      tagStretches (settled stored) 1 member.tags := fun _ mem => erased_memberStretches made mem
  have methods : ∀ method ∈ stored.methods,
      erased (methodStretches (settled stored) stored.simpleName method) = [] :=
    fun _ mem => erased_methodStretches made mem
  unfold bodyStretches
  rw [erased_append, erased_append, erased_flatMap, erased_flatMap, List.flatMap_congr fields,
    List.flatMap_eq_nil_iff.2 methods, List.append_nil]
  exact List.append_nil _

/-- What is erased: imports, the annotations of the class, the clause of the interfaces, and the
annotations of the fields. -/
theorem erased_stretches (made : serverEntity object = .ok stored) :
    erased (stretches stored) =
      erased (importStretches (settled stored)) ++
        tagStretches (settled stored) 0 stored.tags ++
        interfaceStretches (settled stored) stored ++
        stored.fields.flatMap fun member => tagStretches (settled stored) 1 member.tags := by
  rw [stretches, erased_append, erased_append, erased_headerStretches made,
    erased_declarationStretches made, erased_bodyStretches made]
  simp only [List.append_assoc]

end Entities

/-! ## Main result -/

/-- A class of an entity is made for servers exactly if it is made for clients, and otherwise both
fail alike. The file for clients is the file for servers without the imports from the package of the
annotations, the annotations of the class and of its fields with all their lines, and the clause of
the interfaces. It imports the class that compares and hashes values, and that of moments in time
exactly if there is a field of them. -/
theorem client_is_server_without_storing (object : BusinessObject) :
    (∀ fault, entityClass .server object = .error fault ↔
      entityClass .client object = .error fault) ∧
    ∀ stored shared, entityClass .server object = .ok stored →
      entityClass .client object = .ok shared →
      classText stored = textOf (stretches stored) ∧
      classText shared = textOf (kept (stretches stored)) ∧
      erased (stretches stored) =
        erased (importStretches (settled stored)) ++
          tagStretches (settled stored) 0 stored.tags ++
          interfaceStretches (settled stored) stored ++
          (stored.fields.flatMap fun member => tagStretches (settled stored) 1 member.tags) ∧
      (classUnit shared).imports =
        (if ∃ field ∈ object.fields, field.type = .date then ["java.util.Date"] else []) ++
          ["java.util.Objects"] := by
  constructor
  · intro fault
    unfold entityClass
    cases serverEntity object with
    | error other => exact Iff.rfl
    | ok stored =>
      constructor
      · intro failed
        cases failed
      · intro failed
        cases failed
  · intro stored shared server client
    obtain ⟨spec, made, rfl⟩ := Blueprint.entityClass_eq_ok_iff.1 server
    obtain ⟨other, again, rfl⟩ := Blueprint.entityClass_eq_ok_iff.1 client
    cases made.symm.trans again
    refine ⟨classText_eq_textOf _, ?_, erased_stretches made, ?_⟩
    · rw [classText_eq_textOf, kept_stretches made]
    · rw [classUnit_eq_settled]
      exact importedNames_client made

/-- An object that is named like an annotation and has a field of moments in time. -/
def seating : BusinessObject where
  qualifiedName := "org.acme.Table"
  description := none
  fields := [⟨"reservedAt", .date, false, none⟩]
  queries := []
  uniqueConstraints := []

theorem client_is_server_without_storing_seating :
    ∃ stored shared, entityClass .server seating = .ok stored ∧
      entityClass .client seating = .ok shared ∧
      classText stored = textOf (stretches stored) ∧
      classText shared = textOf (kept (stretches stored)) ∧ erased (stretches stored) ≠ [] ∧
      (classUnit shared).imports = ["java.util.Date", "java.util.Objects"] := by
  have free : Blueprint.typeNameFault? seating.qualifiedName = none := by decide
  have declared : Blueprint.ConstraintsDeclared seating :=
    Blueprint.constraintsDeclared_of_eq_nil rfl
  obtain ⟨stored, server⟩ := Blueprint.exists_entityClass_eq_ok .server free declared
  obtain ⟨shared, client⟩ := Blueprint.exists_entityClass_eq_ok .client free declared
  obtain ⟨-, whole⟩ := client_is_server_without_storing seating
  obtain ⟨first, second, erasing, imports⟩ := whole stored shared server client
  refine ⟨stored, shared, server, client, first, second, ?_, imports⟩
  have tagged : tagStretches (settled stored) 0 stored.tags ≠ [] := by
    obtain ⟨built, made, rfl⟩ := Blueprint.entityClass_eq_ok_iff.1 server
    obtain ⟨-, table, -, rfl⟩ := Blueprint.serverEntity_eq_ok_iff.1 made
    exact List.cons_ne_nil _ _
  rw [erasing]
  simp [tagged]

end EntityGen.Java
