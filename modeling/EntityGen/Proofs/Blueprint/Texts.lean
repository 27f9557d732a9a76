/-
  Proofs/Blueprint/Texts.lean --- texts that mean nothing.

  Source: the specification, section 3 (opaque query text, passed through verbatim;
  descriptions) and section 4.3 (query text is never inspected).

  The description of an object and the texts of its queries are written by people and mean
  nothing to the generator. They are carried into two places: the description into the
  comment of the entity, the text of a query into an attribute of its tag. Without the texts
  an object has the same access interface, and the same entity but for these two places.
-/
import EntityGen.Proofs.Blueprint.Dao

set_option autoImplicit false

namespace EntityGen

/-! ## Objects without texts -/

namespace Model

/-- The query without its text. -/
def Query.withoutText (query : Query) : Query :=
  { query with content := "" }

/-- The object without its description and without the texts of its queries. -/
def BusinessObject.withoutTexts (object : BusinessObject) : BusinessObject :=
  { object with
    description := none
    queries := object.queries.map Query.withoutText }

/-- Objects that are the same but for their descriptions and the texts of their queries. -/
def AlikeButTexts (objects others : List BusinessObject) : Prop :=
  objects.map BusinessObject.withoutTexts = others.map BusinessObject.withoutTexts

end Model

namespace Blueprint

open Model (BusinessObject Query)

/-! ## Classes without texts -/

/-- The value of an attribute of the tag of a query, without the text of the query. -/
def TagValue.withoutText (name : String) : TagValue → TagValue
  | .text content => .text (if name = "query" then "" else content)
  | value => value

/-- The tag without the text of a query, if it is the tag of one. -/
def Tag.withoutText : Tag → Tag
  | .mk .namedQuery attributes =>
    .mk .namedQuery (attributes.map fun entry => (entry.1, entry.2.withoutText entry.1))
  | tag => tag

/-- The value without the texts of the queries that it lists. -/
def TagValue.withoutTexts : TagValue → TagValue
  | .tags nested => .tags (nested.map Tag.withoutText)
  | value => value

/-- The tag without the texts of the queries that it lists. -/
def Tag.withoutTexts : Tag → Tag
  | .mk kind attributes =>
    .mk kind (attributes.map fun entry => (entry.1, entry.2.withoutTexts))

/-- The class without its comment and without the texts of the queries that its tags list. -/
def ClassSpec.withoutTexts (spec : ClassSpec) : ClassSpec :=
  { spec with
    doc := none
    tags := spec.tags.map Tag.withoutTexts }

theorem Tag.kind_withoutTexts (tag : Tag) : tag.withoutTexts.kind = tag.kind := by
  cases tag
  rfl

/-- Classes for clients lose their texts like those for servers. -/
theorem ClassSpec.withoutPersistence_withoutTexts (spec : ClassSpec) :
    spec.withoutTexts.withoutPersistence = spec.withoutPersistence.withoutTexts := by
  have tags : Blueprint.withoutPersistence (spec.tags.map Tag.withoutTexts) =
      (Blueprint.withoutPersistence spec.tags).map Tag.withoutTexts := by
    unfold Blueprint.withoutPersistence
    rw [List.filter_map]
    congr 2
    funext tag
    simp only [Function.comp_apply, Tag.kind_withoutTexts]
  simp only [withoutPersistence, withoutTexts, tags]

/-! ## Entities -/

/-- The tag of a query carries the text in one attribute. -/
theorem withoutText_queryTag (query : Query) :
    (queryTag query).withoutText = queryTag query.withoutText :=
  rfl

theorem withoutTexts_queryTags (object : BusinessObject) :
    (queryTags object).map Tag.withoutTexts = queryTags object.withoutTexts := by
  unfold queryTags
  simp only [BusinessObject.withoutTexts, List.isEmpty_map, List.map_map]
  split
  · rfl
  · have tags : queryTag ∘ Query.withoutText = Tag.withoutText ∘ queryTag :=
      funext fun query => (withoutText_queryTag query).symm
    rw [tags, ← List.map_map]
    rfl

/-- The tag of a table lists no queries. -/
theorem withoutTexts_tableTag {object : BusinessObject} {table : Tag}
    (made : tableTag object = .ok table) : table.withoutTexts = table := by
  rcases tableTag_eq_ok_iff.1 made with ⟨-, rfl⟩ | ⟨-, constraints, walked, rfl⟩
  · rfl
  · have others : constraints.map Tag.withoutText = constraints.map id := by
      apply List.map_congr_left
      intro tag mem
      obtain ⟨constraint, -, here⟩ := exists_of_mem_mapM walked mem
      rw [(constraintTag_eq_ok_iff.1 here).2]
      rfl
    rw [List.map_id] at others
    change Tag.mk .table [_, ("unique_constraints", .tags (constraints.map Tag.withoutText))] = _
    rw [others]
    rfl

theorem serverEntity_withoutTexts (object : BusinessObject) :
    serverEntity object.withoutTexts = (serverEntity object).map ClassSpec.withoutTexts := by
  have table : tableTag object.withoutTexts = tableTag object := rfl
  unfold serverEntity
  rw [table, ← withoutTexts_queryTags]
  change (checkTypeName object.qualifiedName >>= _) = _
  cases checkTypeName object.qualifiedName with
  | error fault => rfl
  | ok =>
    cases made : tableTag object with
    | error fault => rfl
    | ok table =>
      have tags : [(Tag.ofKind .entity).set "name" (.text object.simpleName), table].map
            Tag.withoutTexts =
          [(Tag.ofKind .entity).set "name" (.text object.simpleName), table] := by
        rw [List.map_cons, List.map_singleton, withoutTexts_tableTag made]
        rfl
      change Except.ok _ = Except.ok (ClassSpec.withoutTexts _)
      simp only [ClassSpec.withoutTexts, List.map_append, tags]
      rfl

/-- The entity of an object without texts is the entity of the object without texts. -/
theorem entityClass_withoutTexts (variant : Variant) (object : BusinessObject) :
    entityClass variant object.withoutTexts =
      (entityClass variant object).map ClassSpec.withoutTexts := by
  unfold entityClass
  rw [serverEntity_withoutTexts]
  cases serverEntity object with
  | error fault => rfl
  | ok spec =>
    cases variant with
    | server => rfl
    | client => exact congrArg Except.ok spec.withoutPersistence_withoutTexts

/-! ## Access interfaces -/

/-- Neither the names of the methods nor those of their parameters depend on texts. -/
theorem daoOutline_withoutTexts (object : BusinessObject) :
    daoOutline object.withoutTexts = daoOutline object := by
  unfold daoOutline
  simp only [BusinessObject.withoutTexts, List.map_map]
  rfl

/-- The access interface does not depend on texts. -/
theorem daoInterface_withoutTexts (object : BusinessObject) :
    daoInterface object.withoutTexts = daoInterface object := by
  have methods : daoMethods object.withoutTexts = daoMethods object := by
    unfold daoMethods
    simp only [BusinessObject.withoutTexts, List.map_map]
    rfl
  unfold daoInterface
  rw [methods]
  rfl

end Blueprint

end EntityGen
