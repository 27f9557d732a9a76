/-
  Proofs/Java/EntityAnnotations.lean --- annotations of entities.

  Source: the specification, section 4.2 (tags of entities, their fields and methods)
  and section 3 (verbatim query text).

  Annotations lose nothing and add nothing: whatever tag an entity has and whatever names
  its file has claimed, the annotation is read back as that tag, and different tags have
  different annotations.

  Numbers are read as the numbers they write. Whether a compiler takes a numeral of that
  size is not a question of the syntax of annotations.
-/
import EntityGen.Proofs.Blueprint.Entity
import EntityGen.Proofs.Java.AnnotationText
import EntityGen.Proofs.Java.Scoping

set_option autoImplicit false

namespace EntityGen.Java

open EntityGen.Blueprint (ClassSpec Tag TagKind TagValue Variant entityClass)
open EntityGen.Model (BusinessObject Field FieldType Query UniqueConstraint)
open EntityGen.Naming (simpleNameOf)
open Resolver (isImportable)

/-! ## Expressible tags -/

section Expressible

variable {kind : TagKind} {object : BusinessObject} {spec : ClassSpec} {tag : Tag}

theorem expressible_ofKind (kind : TagKind) : Expressible (.ofKind kind) := by
  rw [Tag.ofKind, Expressible, ExpressibleAttributes]
  trivial

theorem expressibleAttributes_setIn {name : String} {value : TagValue}
    {attributes : List (String × TagValue)} (all : ExpressibleAttributes kind attributes)
    (listed : name ∈ attributeNames) (expressible : ExpressibleValue kind value) :
    ExpressibleAttributes kind (Tag.setIn name value attributes) := by
  induction attributes with
  | nil => exact ⟨listed, expressible, trivial⟩
  | cons first rest ih =>
    obtain ⟨key, old⟩ := first
    obtain ⟨keyListed, ofOld, ofRest⟩ := all
    rw [Tag.setIn]
    split
    · exact ⟨keyListed, expressible, ofRest⟩
    · exact ⟨keyListed, ofOld, ih ofRest⟩

/-- A tag stays expressible when an attribute is set to an expressible value. -/
theorem Expressible.set (expressible : Expressible tag) {name : String} {value : TagValue}
    (listed : name ∈ attributeNames) (ofValue : ExpressibleValue tag.kind value) :
    Expressible (tag.set name value) := by
  cases tag with
  | mk kind attributes => exact expressibleAttributes_setIn expressible listed ofValue

theorem expressibleTags_of_forall {tags : List Tag} (all : ∀ tag ∈ tags, Expressible tag) :
    ExpressibleTags tags := by
  induction tags with
  | nil => trivial
  | cons tag rest ih =>
    exact ⟨all tag List.mem_cons_self, ih fun other mem => all other (List.mem_cons_of_mem _ mem)⟩

theorem expressible_constraintTag {constraint : UniqueConstraint}
    (made : Blueprint.constraintTag object constraint = .ok tag) : Expressible tag := by
  have named : Expressible ((Tag.ofKind .uniqueConstraint).set "name" (.text constraint.name)) :=
    (expressible_ofKind _).set (by decide) trivial
  rw [(Blueprint.constraintTag_eq_ok_iff.1 made).2]
  exact named.set (by decide) trivial

theorem expressible_queryTag (query : Query) : Expressible (Blueprint.queryTag query) := by
  have named : Expressible ((Tag.ofKind .namedQuery).set "name" (.text query.name)) :=
    (expressible_ofKind _).set (by decide) trivial
  exact named.set (by decide) trivial

theorem expressible_tableTag (made : Blueprint.tableTag object = .ok tag) : Expressible tag := by
  have named : Expressible (Blueprint.namedTable object) :=
    (expressible_ofKind _).set (by decide) trivial
  rcases Blueprint.tableTag_eq_ok_iff.1 made with ⟨-, rfl⟩ | ⟨constrained, constraints, walked, rfl⟩
  · exact named
  · have all : ∀ constraint ∈ constraints, Expressible constraint := by
      intro constraint mem
      obtain ⟨source, -, made⟩ := exists_of_mem_mapM walked mem
      exact expressible_constraintTag made
    refine named.set (by decide) ⟨?_, expressibleTags_of_forall all⟩
    rintro rfl
    have lengths := (mapM_eq_ok_iff_forall₂.1 walked).length_eq
    exact constrained (List.length_eq_zero_iff.1 lengths)

theorem expressible_queryTags (mem : tag ∈ Blueprint.queryTags object) : Expressible tag := by
  unfold Blueprint.queryTags at mem
  split at mem
  · exact absurd mem List.not_mem_nil
  · rename_i queried
    rw [List.mem_singleton.1 mem]
    have all : ∀ tag ∈ object.queries.map Blueprint.queryTag, Expressible tag := by
      intro tag mem
      obtain ⟨query, -, rfl⟩ := List.mem_map.1 mem
      exact expressible_queryTag query
    refine (expressible_ofKind _).set (by decide) ⟨?_, expressibleTags_of_forall all⟩
    simpa using queried

theorem expressible_columnTag (field : Field) : Expressible (Blueprint.columnTag field) := by
  have named : Expressible ((Tag.ofKind .column).set "name"
      (.text (Naming.columnName field.name))) :=
    (expressible_ofKind _).set (by decide) trivial
  have column : Expressible (((Tag.ofKind .column).set "name"
      (.text (Naming.columnName field.name))).set "nullable" (.flag field.nullable)) :=
    named.set (by decide) trivial
  unfold Blueprint.columnTag
  simp only
  split
  · exact column.set (by decide) (Int.natCast_nonneg _)
  · exact column

theorem expressible_extraTags {type : FieldType} (mem : tag ∈ Blueprint.extraTags type) :
    Expressible tag := by
  cases type with
  | text =>
    rw [List.mem_singleton.1 mem]
    exact expressible_ofKind _
  | date =>
    rw [List.mem_singleton.1 mem]
    exact (expressible_ofKind _).set (by decide) ⟨rfl, by decide⟩
  | _ => exact absurd mem List.not_mem_nil

/-- All tags in a class. -/
def attachedTags (spec : ClassSpec) : List Tag :=
  spec.tags ++ spec.fields.flatMap (·.tags) ++ spec.methods.flatMap (·.tags)

theorem mem_attachedTags {spec : ClassSpec} :
    tag ∈ attachedTags spec ↔ tag ∈ spec.tags ∨ (∃ member ∈ spec.fields, tag ∈ member.tags) ∨
      ∃ method ∈ spec.methods, tag ∈ method.tags := by
  rw [attachedTags, List.mem_append, List.mem_append, List.mem_flatMap, List.mem_flatMap, or_assoc]

theorem expressible_serverEntity (made : Blueprint.serverEntity object = .ok spec)
    (attached : tag ∈ attachedTags spec) : Expressible tag := by
  obtain ⟨-, table, tabled, rfl⟩ := Blueprint.serverEntity_eq_ok_iff.1 made
  rcases mem_attachedTags.1 attached with ofClass | ⟨member, mem, tagged⟩ | ⟨method, mem, tagged⟩
  · simp only [List.cons_append, List.nil_append, List.mem_cons] at ofClass
    rcases ofClass with rfl | rfl | query
    · exact (expressible_ofKind _).set (by decide) trivial
    · exact expressible_tableTag tabled
    · exact expressible_queryTags query
  · simp only [List.mem_append, List.mem_cons, List.not_mem_nil, or_false] at mem
    rcases mem with declared | rfl | rfl
    · obtain ⟨field, -, rfl⟩ := List.mem_map.1 declared
      rcases List.mem_cons.1 tagged with rfl | extra
      · exact expressible_columnTag field
      · exact expressible_extraTags extra
    · simp only [Blueprint.idMember, List.mem_cons, List.not_mem_nil, or_false] at tagged
      rcases tagged with rfl | rfl
      · exact expressible_ofKind _
      · exact expressible_ofKind _
    · rw [List.mem_singleton.1 tagged]
      exact expressible_ofKind _
  · rw [List.mem_singleton.1 (Blueprint.tags_entityMethods_subset mem tagged)]
    exact expressible_ofKind _

/-- A class for clients has no other tags than that for servers. -/
theorem attachedTags_withoutPersistence_subset (spec : ClassSpec) :
    attachedTags spec.withoutPersistence ⊆ attachedTags spec := by
  intro tag attached
  rw [mem_attachedTags] at attached ⊢
  rcases attached with ofClass | ⟨member, mem, tagged⟩ | ⟨method, mem, tagged⟩
  · exact Or.inl (List.mem_filter.1 ofClass).1
  · obtain ⟨stored, listed, rfl⟩ := List.mem_map.1 mem
    exact Or.inr (Or.inl ⟨stored, listed, (List.mem_filter.1 tagged).1⟩)
  · obtain ⟨stored, listed, rfl⟩ := List.mem_map.1 mem
    exact Or.inr (Or.inr ⟨stored, listed, (List.mem_filter.1 tagged).1⟩)

/-- All tags of an entity are expressible. -/
theorem expressible_entityClass {variant : Variant} (made : entityClass variant object = .ok spec)
    (attached : tag ∈ attachedTags spec) : Expressible tag := by
  obtain ⟨stored, built, rfl⟩ := Blueprint.entityClass_eq_ok_iff.1 made
  cases variant with
  | server => exact expressible_serverEntity built attached
  | client =>
    exact expressible_serverEntity built (attachedTags_withoutPersistence_subset stored attached)

end Expressible

/-! ## Names of attributes -/

theorem elementName_injOn {name other : String} (listed : name ∈ attributeNames)
    (listed' : other ∈ attributeNames) (same : elementName name = elementName other) :
    name = other := by
  have once : (attributeNames.map elementName).Nodup := by decide
  exact List.inj_on_of_nodup_map once listed listed' same

mutual

/-- The names of attributes can be told from those in annotations. -/
theorem eq_of_camelTag_eq {tag other : Tag} (expressible : Expressible tag)
    (expressible' : Expressible other) (same : camelTag tag = camelTag other) : tag = other := by
  cases tag with
  | mk kind attributes =>
    cases other with
    | mk kind' attributes' =>
      rw [camelTag, camelTag, Tag.mk.injEq] at same
      obtain ⟨rfl, same⟩ := same
      rw [eq_of_camelAttributes_eq expressible expressible' same]
termination_by structural tag

theorem eq_of_camelAttributes_eq {kind : TagKind} {attributes others : List (String × TagValue)}
    (expressible : ExpressibleAttributes kind attributes)
    (expressible' : ExpressibleAttributes kind others)
    (same : camelAttributes attributes = camelAttributes others) : attributes = others := by
  cases attributes with
  | nil =>
    cases others with
    | nil => rfl
    | cons pair rest => simp [camelAttributes] at same
  | cons pair rest =>
    cases others with
    | nil => simp [camelAttributes] at same
    | cons pair' rest' =>
      obtain ⟨name, value⟩ := pair
      obtain ⟨name', value'⟩ := pair'
      obtain ⟨listed, ofValue, ofRest⟩ := expressible
      obtain ⟨listed', ofValue', ofRest'⟩ := expressible'
      rw [camelAttributes, camelAttributes, List.cons.injEq, Prod.mk.injEq] at same
      obtain ⟨⟨names, values⟩, rests⟩ := same
      rw [elementName_injOn listed listed' names, eq_of_camelValue_eq ofValue ofValue' values,
        eq_of_camelAttributes_eq ofRest ofRest' rests]
termination_by structural attributes

theorem eq_of_camelValue_eq {kind : TagKind} {value other : TagValue}
    (expressible : ExpressibleValue kind value) (expressible' : ExpressibleValue kind other)
    (same : camelValue value = camelValue other) : value = other := by
  cases value with
  | tags nested =>
    cases other with
    | tags others =>
      rw [camelValue, camelValue, TagValue.tags.injEq] at same
      rw [eq_of_camelTags_eq expressible.2 expressible'.2 same]
    | _ => simp [camelValue] at same
  | _ =>
    cases other with
    | tags others => simp [camelValue] at same
    | _ => exact same
termination_by structural value

theorem eq_of_camelTags_eq {tags others : List Tag} (expressible : ExpressibleTags tags)
    (expressible' : ExpressibleTags others) (same : camelTags tags = camelTags others) :
    tags = others := by
  cases tags with
  | nil =>
    cases others with
    | nil => rfl
    | cons tag rest => simp [camelTags] at same
  | cons tag rest =>
    cases others with
    | nil => simp [camelTags] at same
    | cons tag' rest' =>
      rw [camelTags, camelTags, List.cons.injEq] at same
      rw [eq_of_camelTag_eq expressible.1 expressible'.1 same.1,
        eq_of_camelTags_eq expressible.2 expressible'.2 same.2]
termination_by structural tags

end

/-! ## Names of types -/

section Types

variable {names : Resolver} {mentions : List String}

/-- Types are written by their simple or by their dotted name, so that it is enough if both denote
them. -/
theorem understands_of_forall {denotes : String → String}
    (both : ∀ name ∈ mentions, denotes (simpleNameOf name) = name ∧ denotes name = name) :
    Understands denotes names mentions := by
  induction mentions generalizing names with
  | nil => rfl
  | cons name rest ih =>
    obtain ⟨simple, dotted⟩ := both name List.mem_cons_self
    refine understands_cons_iff.2 ⟨?_, ih fun other mem => both other (List.mem_cons_of_mem _ mem)⟩
    rcases answer_resolve_cases names name with written | written
    · rw [written, simple]
    · rw [written, dotted]

/-- The type of annotations that has a simple or a dotted name. -/
def platformType (text : String) : String :=
  (annotationTypes.find? fun type => type == text || simpleNameOf type == text).getD text

theorem understands_platformType (tag : Tag) (names : Resolver) :
    Understands platformType names (tagMentions tag) := by
  have both : ∀ type ∈ annotationTypes,
      platformType (simpleNameOf type) = type ∧ platformType type = type := by decide
  exact understands_of_forall fun type mem => both type (tagMentions_subset tag mem)

/-- What a text denotes in a file that has claimed these names: a dotted name denotes itself, a
simple one the type that claimed it. -/
def Resolver.meaning (names : Resolver) (text : String) : String :=
  if '.' ∈ text.toList then text else (names.claimed.lookup text).getD text

/-- Whoever has claimed a simple name keeps it. -/
theorem lookup_after_singleton {simpleName owner : String}
    (claimed : names.claimed.lookup simpleName = some owner) (name : String) :
    (names.after [name]).claimed.lookup simpleName = some owner := by
  change (Resolver.resolve name names).2.claimed.lookup simpleName = some owner
  unfold Resolver.resolve
  simp only
  split
  · split
    · exact claimed
    · rename_i free
      have other : simpleName ≠ simpleNameOf name := by
        rintro rfl
        rw [free] at claimed
        cases claimed
      simp [Resolver.claim, List.lookup_cons, beq_false_of_ne other, claimed]
  · exact claimed

theorem lookup_after {simpleName owner : String}
    (claimed : names.claimed.lookup simpleName = some owner) (mentions : List String) :
    (names.after mentions).claimed.lookup simpleName = some owner := by
  induction mentions generalizing names with
  | nil => exact claimed
  | cons name rest ih =>
    rw [← List.singleton_append, Resolver.after_append]
    exact ih (lookup_after_singleton claimed name)

/-- A type that is written by its simple name has claimed it. -/
theorem answer_resolve_claims {name : String} (importable : isImportable name = true) :
    names.answer (Resolver.resolve name) = name ∨
      names.answer (Resolver.resolve name) = simpleNameOf name ∧
        (names.after [name]).claimed.lookup (simpleNameOf name) = some name := by
  change (Resolver.resolve name names).1 = _ ∨ (Resolver.resolve name names).1 = _ ∧
    (Resolver.resolve name names).2.claimed.lookup (simpleNameOf name) = some name
  unfold Resolver.resolve
  rw [if_pos importable]
  simp only
  split
  · rename_i owner claimed
    by_cases own : owner = name
    · exact Or.inr ⟨if_pos own, own ▸ claimed⟩
    · exact Or.inl (if_neg own)
  · exact Or.inr ⟨rfl, List.lookup_cons_self⟩

/-- Whatever is mentioned later, what has been written denotes the type that it stands for. -/
theorem understands_meaning (importable : ∀ name ∈ mentions, isImportable name = true)
    (later : List String) :
    Understands (names.after (mentions ++ later)).meaning names mentions := by
  induction mentions generalizing names with
  | nil => rfl
  | cons name rest ih =>
    have here := importable name List.mem_cons_self
    rw [List.cons_append, ← List.singleton_append, Resolver.after_append]
    refine understands_cons_iff.2 ⟨?_, ih fun other mem => ?_⟩
    · rcases answer_resolve_claims here with dotted | ⟨simple, claimed⟩
      · rw [dotted, Resolver.meaning, if_pos (mem_dot_of_importable here)]
      · have kept := lookup_after claimed (rest ++ later)
        rw [simple, Resolver.meaning, if_neg (Naming.not_mem_simpleNameOf name), kept]
        rfl
    · exact importable other (List.mem_cons_of_mem _ mem)

end Types

/-! ## Annotations as texts -/

/-- The annotation of a tag as one text. -/
def annotationText (names : Resolver) (tag : Tag) : String :=
  Text.join "\n" (annotationLines names tag)

/-- An expressible tag is read back from its annotation where the names of types are understood. -/
theorem readBack_annotationText {denotes : String → String} {names : Resolver} {tag : Tag}
    (expressible : Expressible tag) (understood : Understands denotes names (tagMentions tag)) :
    readBack denotes (annotationText names tag) = some (camelTag tag) := by
  obtain ⟨tokens, scanned, parsed⟩ := exists_tokens_annotation tag names expressible understood
  exact readBack_of_readsTag (scan_join scanned) parsed

/-- Annotations lose nothing and add nothing. The annotation of a tag of any entity, written with
any names claimed before, is read back as the tag with its attributes under the names of elements,
where names of types denote what they denote in the file, whatever the file mentions later. Hence
annotations that are equal as texts, wherever and with whatever names they are written, are
annotations of the same tag.

The names of elements are spelled out for the two attributes whose names have underscores; all
others keep their names. The reader follows the syntax: a numeral is the number that it denotes, also
from `2 ^ 31` on, where a compiler refuses it only later, for the type of the element. -/
theorem annotations_read_back :
    (∀ variant object spec, entityClass variant object = .ok spec →
      ∀ tag ∈ attachedTags spec, ∀ (names : Resolver) (later : List String),
        let (lines, claimed) := annotation tag names
        readBack (claimed.after later).meaning (Text.join "\n" lines) = some (camelTag tag)) ∧
    (∀ variant object spec variant' object' spec',
      entityClass variant object = .ok spec → entityClass variant' object' = .ok spec' →
        ∀ tag ∈ attachedTags spec, ∀ other ∈ attachedTags spec', ∀ names names' : Resolver,
          annotationText names tag = annotationText names' other → tag = other) ∧
    (elementName "unique_constraints" = "uniqueConstraints" ∧
      elementName "column_names" = "columnNames" ∧
      ∀ name, '_' ∉ name.toList → elementName name = name) ∧
    ∀ denotes kind (number : Nat),
      wordValue? denotes kind (toString number) = some (.number number) := by
  refine ⟨?_, ?_, ⟨by decide, by decide, fun name => elementName_of_not_mem⟩, ?_⟩
  · intro variant object spec made tag attached names later
    have expressible := expressible_entityClass made attached
    have importable : ∀ type ∈ annotationTypes, isImportable type = true := by decide
    have understood :
        Understands (names.after (tagMentions tag ++ later)).meaning names (tagMentions tag) :=
      understands_meaning (fun type mem => importable type (tagMentions_subset tag mem)) later
    rw [Resolver.after_append, ← (asks_tag tag).state_eq] at understood
    exact readBack_annotationText expressible understood
  · intro variant object spec variant' object' spec' made made' tag attached other attached' names
      names' same
    have expressible := expressible_entityClass made attached
    have expressible' := expressible_entityClass made' attached'
    have first := readBack_annotationText expressible (understands_platformType tag names)
    have second := readBack_annotationText expressible' (understands_platformType other names')
    rw [same, second] at first
    exact eq_of_camelTag_eq expressible expressible' (Option.some.inj first).symm
  · intro denotes kind number
    exact (wordValue?_number denotes kind number).2

/-- An object with a long text that is unique. -/
def parcel : BusinessObject where
  qualifiedName := "org.acme.Parcel"
  description := none
  fields := [⟨"label", .string, false, some 3000000000⟩]
  queries := []
  uniqueConstraints := [⟨"one \"label\"", ["label"]⟩]

/-- The tag of the table of that object. -/
def parcelTable : Tag :=
  .mk .table [("name", .text "PARCEL"), ("unique_constraints", .tags [
    .mk .uniqueConstraint [("name", .text "one \"label\""), ("column_names", .texts ["LABEL"])]])]

/-- The tag of its column. -/
def parcelColumn : Tag :=
  .mk .column [("name", .text "LABEL"), ("nullable", .flag false), ("length", .number 3000000000)]

theorem annotations_read_back_parcel :
    ∃ spec, entityClass .server parcel = .ok spec ∧
      (parcelTable ∈ attachedTags spec ∧
        let (lines, claimed) := annotation parcelTable .empty
        lines = ["@Table(name = \"PARCEL\", uniqueConstraints = \x7b",
          "    @UniqueConstraint(name = \"one \\\"label\\\"\", columnNames = \x7b \"LABEL\" \x7d)",
          "\x7d)"] ∧
        readBack claimed.meaning (Text.join "\n" lines) =
          some (.mk .table [("name", .text "PARCEL"), ("uniqueConstraints", .tags [
            .mk .uniqueConstraint [("name", .text "one \"label\""),
              ("columnNames", .texts ["LABEL"])]])])) ∧
      (parcelColumn ∈ attachedTags spec ∧
        let (lines, claimed) := annotation parcelColumn .empty
        lines = ["@Column(name = \"LABEL\", nullable = false, length = 3000000000)"] ∧
        readBack claimed.meaning (Text.join "\n" lines) = some parcelColumn) := by
  obtain ⟨spec, made, table, column⟩ : ∃ spec, entityClass .server parcel = .ok spec ∧
      parcelTable ∈ attachedTags spec ∧ parcelColumn ∈ attachedTags spec :=
    ⟨_, rfl, List.mem_cons_of_mem _ List.mem_cons_self,
      List.mem_cons_of_mem _ (List.mem_cons_of_mem _ List.mem_cons_self)⟩
  have first := annotations_read_back.1 .server parcel spec made parcelTable table .empty []
  have second := annotations_read_back.1 .server parcel spec made parcelColumn column .empty []
  exact ⟨spec, made, ⟨table, by decide, first⟩, column, by decide, second⟩

end EntityGen.Java
