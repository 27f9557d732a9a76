/-
  Proofs/Java/AnnotationText.lean --- what is written for tags.

  Source: `Java/Annotation.lean`, and the names of annotation elements in the persistence
  annotations: attributes cut at their underscores, the later pieces with a capital letter.

  The lines of an annotation have the tokens that are read as its tag. The induction follows
  the writer: over the tag, its attributes, their values and the tags among these, with the
  tokens of the lines written so far as the invariant.

  The camel-cased name of an attribute is defined here by its pieces, and the writer's way
  of finding it is shown to agree.
-/
import EntityGen.Proofs.Java.AnnotationPieces

set_option autoImplicit false

namespace EntityGen.Java

open EntityGen.Blueprint (Tag TagKind TagValue)

/-! ## Names of elements -/

/-- The name of the element of an annotation that stands for an attribute: the pieces of the name
between underscores one behind the other, all but the first with a capital letter. -/
def elementName (name : String) : String :=
  match name.toList.splitOn '_' with
  | [] => ""
  | first :: later => String.ofList (first ++ later.flatMap Text.capitalizeChars)

/-- The characters that the writer leaves are those of the pieces; which of the two forms the first
piece has depends on whether an underscore has been passed. -/
theorem camelChars_eq (chars : List Char) :
    camelChars true chars = (chars.splitOn '_').flatMap Text.capitalizeChars ∧
      camelChars false chars = (chars.splitOn '_').headD [] ++
        (chars.splitOn '_').tail.flatMap Text.capitalizeChars := by
  induction chars with
  | nil => exact ⟨rfl, rfl⟩
  | cons c rest ih =>
    obtain ⟨capital, plain⟩ := ih
    rw [List.splitOn_cons_eq_if_modifyHead]
    by_cases mark : c = '_'
    · subst mark
      simp [camelChars, capital, Text.capitalizeChars]
    · obtain ⟨first, later, pieces⟩ := List.exists_cons_of_ne_nil (List.splitOn_ne_nil '_' rest)
      rw [pieces] at plain ⊢
      simp [camelChars, mark, plain, Text.capitalizeChars]

/-- Attributes are written under the names of elements. -/
theorem camelCase_eq_elementName (name : String) : camelCase name = elementName name := by
  rw [camelCase, (camelChars_eq name.toList).2, elementName]
  obtain ⟨first, later, pieces⟩ :=
    List.exists_cons_of_ne_nil (List.splitOn_ne_nil '_' name.toList)
  rw [pieces]
  rfl

theorem elementName_of_not_mem {name : String} (plain : '_' ∉ name.toList) :
    elementName name = name := by
  rw [elementName, List.splitOn_eq_singleton plain]
  simp

/-! ## Tags that can be read -/

mutual

/-- The tag with the names of elements in place of those of its attributes. -/
def camelTag : Tag → Tag
  | .mk kind attributes => .mk kind (camelAttributes attributes)

/-- Attributes under the names of elements. -/
def camelAttributes : List (String × TagValue) → List (String × TagValue)
  | [] => []
  | (name, value) :: rest => (elementName name, camelValue value) :: camelAttributes rest

/-- A value with the names of elements in it. -/
def camelValue : TagValue → TagValue
  | .tags nested => .tags (camelTags nested)
  | .text text => .text text
  | .flag value => .flag value
  | .number value => .number value
  | .constant name => .constant name
  | .texts items => .texts items

/-- Tags with the names of elements in place of those of their attributes. -/
def camelTags : List Tag → List Tag
  | [] => []
  | tag :: rest => camelTag tag :: camelTags rest

end

/-- The constants in tags. -/
def constantNames : List String :=
  ["TIMESTAMP"]

mutual

/-- Annotations can express the tag: there is a type for its constants, its numbers are no negative
ones, which are expressions in Java, and its lists of tags are not empty, since an empty list of
tags looks like one of texts. -/
def Expressible : Tag → Prop
  | .mk kind attributes => ExpressibleAttributes kind attributes

/-- The same for attributes. -/
def ExpressibleAttributes (kind : TagKind) : List (String × TagValue) → Prop
  | [] => True
  | (name, value) :: rest =>
    name ∈ attributeNames ∧ ExpressibleValue kind value ∧ ExpressibleAttributes kind rest

/-- The same for a value. -/
def ExpressibleValue (kind : TagKind) : TagValue → Prop
  | .number value => 0 ≤ value
  | .constant name => (constantType? kind).isSome ∧ name ∈ constantNames
  | .tags nested => nested ≠ [] ∧ ExpressibleTags nested
  | .text _ | .flag _ | .texts _ => True

/-- The same for tags. -/
def ExpressibleTags : List Tag → Prop
  | [] => True
  | tag :: rest => Expressible tag ∧ ExpressibleTags rest

end

/-! ## Writing and reading -/

variable {denotes : String → String} {kind : TagKind} {names : Resolver} {tokens : List Token}

theorem annotationLines_ne_nil (names : Resolver) (tag : Tag) :
    annotationLines names tag ≠ [] := by
  cases tag with
  | mk kind attributes =>
    unfold annotationLines annotation
    rw [(Asks.resolve _).answer_bind_after]
    cases attributes with
    | nil => exact List.cons_ne_nil _ _
    | cons first rest =>
      rw [if_neg (by simp), (asks_attributesText kind _ _ _ _).answer_bind_after]
      exact List.append_ne_nil_of_right_ne_nil _ (List.cons_ne_nil _ _)

theorem exists_tokens_constant {unfinished : Unfinished} {name : String}
    (expressible : ExpressibleValue kind (.constant name))
    (understood : Understands denotes names (valueMentions kind (.constant name)))
    (has : unfinished.HasTokens tokens) (plain : EndsPlain unfinished.current) :
    ∃ more, (names.answer (attributeText kind unfinished (.constant name))).HasTokens
        (tokens ++ more) ∧ ReadsValue denotes kind more (.constant name) := by
  obtain ⟨typed, listed⟩ := expressible
  obtain ⟨type, found⟩ := Option.isSome_iff_exists.1 typed
  have word : ∀ name ∈ constantNames, '.' ∉ name.toList ∧ IsWord name := by decide
  have mem : type ∈ annotationTypes := constantType_mem kind type (by simp [found])
  have written : names.answer (attributeText kind unfinished (.constant name)) =
      unfinished.continue (names.answer (Resolver.resolve type) ++ "." ++ name) := by
    rw [attributeText, valueText, constantText, found]
    · rfl
    · intro nested
      exact TagValue.noConfusion
  have meaning : denotes (names.answer (Resolver.resolve type)) = type := by
    rw [valueMentions, found] at understood
    exact understands_singleton_iff.1 understood
  have scanned := scan_word (isWord_constant (isWord_answer_resolve names mem)
    (word name listed).2)
  rw [written]
  exact ⟨_, has.continue scanned (Or.inl plain),
    .word (wordValue?_constant found meaning (word name listed).1)⟩

/-- A value without a name is the only one. -/
theorem eq_of_isPositional {name : String} {value : TagValue} {rest : List (String × TagValue)}
    (positional : isPositional ((name, value) :: rest) = true) :
    name = Blueprint.valueAttribute ∧ rest = [] := by
  cases rest with
  | nil => exact ⟨eq_of_beq positional, rfl⟩
  | cons next others => cases positional

mutual

/-- The lines of an annotation are read as its tag. -/
theorem exists_tokens_annotation (tag : Tag) (names : Resolver) (expressible : Expressible tag)
    (understood : Understands denotes names (tagMentions tag)) :
    ∃ tokens, scanLines (annotationLines names tag) = some tokens ∧
      ReadsTag denotes tokens (camelTag tag) := by
  cases tag with
  | mk kind attributes =>
    rw [tagMentions, understands_cons_iff] at understood
    obtain ⟨meaning, understood⟩ := understood
    rw [Expressible] at expressible
    have word := isWord_answer_resolve names (annotationType_mem kind)
    have named : kindOf? (denotes (names.answer (Resolver.resolve (annotationType kind)))) =
        some kind := by rw [meaning, kindOf?_annotationType]
    unfold annotationLines annotation
    rw [(Asks.resolve _).answer_bind_after]
    generalize names.answer (Resolver.resolve (annotationType kind)) = text at word named ⊢
    cases attributes with
    | nil =>
      have start : scanLines ["@" ++ text] = some [.mark '@', .word text] :=
        (scanLines_singleton _).trans (scan_at_word word)
      exact ⟨_, start, .bare named⟩
    | cons first rest =>
      obtain ⟨name, value⟩ := first
      have opened := hasTokens_opened word
      have plain := endsPlain_opened text
      rw [if_neg (by simp), (asks_attributesText kind _ _ _ _).answer_bind_after]
      cases positional : isPositional ((name, value) :: rest) with
      | true =>
        obtain ⟨rfl, rfl⟩ := eq_of_isPositional positional
        rw [ExpressibleAttributes] at expressible
        rw [attributeMentions, understands_append_iff] at understood
        obtain ⟨more, has, parsed⟩ := exists_tokens_value kind _ value _ expressible.2.1
          understood.1 opened plain
        rw [attributesText, continue_positional,
          (asks_attributeText kind _ value).answer_bind_after]
        exact ⟨_, has.closed, .sole named parsed⟩
      | false =>
        obtain ⟨more, has, parsed⟩ := exists_tokens_attributes kind true _ ((name, value) :: rest)
          _ expressible understood opened (Or.inl plain) (List.cons_ne_nil _ _)
        exact ⟨_, has.closed, .named named parsed⟩

/-- The same for the attributes of an annotation that have names. -/
theorem exists_tokens_attributes (kind : TagKind) (first : Bool) (unfinished : Unfinished)
    (attributes : List (String × TagValue)) (names : Resolver) {tokens : List Token}
    (expressible : ExpressibleAttributes kind attributes)
    (understood : Understands denotes names (attributeMentions kind attributes))
    (has : unfinished.HasTokens tokens)
    (apart : EndsPlain unfinished.current ∨ first = false) (nonempty : attributes ≠ []) :
    ∃ more, (names.answer (attributesText kind false first unfinished attributes)).HasTokens
        (tokens ++ (if first then [] else [.mark ',']) ++ more) ∧
      ReadsNamed denotes kind more (camelAttributes attributes) := by
  cases attributes with
  | nil => exact absurd rfl nonempty
  | cons pair rest =>
    obtain ⟨name, value⟩ := pair
    obtain ⟨listed, ofValue, ofRest⟩ := expressible
    rw [attributeMentions, understands_append_iff] at understood
    have identifier := isIdentifier_camelCase name listed
    have spelled := scan_attributeLead first identifier
    rw [camelCase_eq_elementName] at identifier spelled
    have lead : EndsPlain unfinished.current ∨ StartsPlain (attributeLead first false name) := by
      refine apart.imp_right ?_
      rintro rfl
      exact startsPlain_attributeLead name
    obtain ⟨inside, has, parsed⟩ := exists_tokens_value kind _ value names ofValue understood.1
      (has.continue spelled lead)
      (endsPlain_attributeLead _ first name)
    rw [attributesText, (asks_attributeText kind _ value).answer_bind_after]
    cases rest with
    | nil =>
      refine ⟨.word (elementName name) :: .mark '=' :: inside, ?_, .single identifier parsed⟩
      rw [attributesText, Resolver.answer_pure]
      simpa using has
    | cons next others =>
      obtain ⟨behind, has, later⟩ := exists_tokens_attributes kind false _ (next :: others) _ ofRest
        understood.2 has (Or.inr rfl) (List.cons_ne_nil _ _)
      refine ⟨.word (elementName name) :: .mark '=' :: inside ++ .mark ',' :: behind, ?_,
        .cons identifier parsed later⟩
      simpa using has

/-- The same for the value of an attribute. -/
theorem exists_tokens_value (kind : TagKind) (unfinished : Unfinished) (value : TagValue)
    (names : Resolver) {tokens : List Token} (expressible : ExpressibleValue kind value)
    (understood : Understands denotes names (valueMentions kind value))
    (has : unfinished.HasTokens tokens) (plain : EndsPlain unfinished.current) :
    ∃ more, (names.answer (attributeText kind unfinished value)).HasTokens (tokens ++ more) ∧
      ReadsValue denotes kind more (camelValue value) := by
  cases value with
  | text text => exact ⟨_, has.continue (scan_stringLiteral text) (Or.inl plain), .text text⟩
  | flag value =>
    cases value with
    | true => exact ⟨[.word "true"], has.continue (by decide) (Or.inl plain), .word rfl⟩
    | false => exact ⟨[.word "false"], has.continue (by decide) (Or.inl plain), .word rfl⟩
  | number value =>
    obtain ⟨n, rfl⟩ := Int.eq_ofNat_of_zero_le expressible
    obtain ⟨word, meaning⟩ := wordValue?_number denotes kind n
    exact ⟨_, has.continue (scan_word word) (Or.inl plain), .word meaning⟩
  | constant name => exact exists_tokens_constant expressible understood has plain
  | texts items => exact ⟨_, has.continue (scan_textList items) (Or.inl plain), .texts items⟩
  | tags nested =>
    rw [ExpressibleValue] at expressible
    rw [valueMentions] at understood
    obtain ⟨inside, scanned, parsed⟩ :=
      exists_tokens_nested nested names expressible.1 expressible.2 understood
    have opening : IsSeparator "\x7b" [.mark '\x7b'] := by decide
    have closing : IsSeparator "\x7d" [.mark '\x7d'] := by decide
    have closed := (has.continue opening.scanned (Or.inl plain)).break scanned closing.scanned
    rw [attributeText, if_neg (by simp [expressible.1]),
      (asks_nestedLines nested).answer_bind_after, Resolver.answer_pure]
    refine ⟨.mark '\x7b' :: inside ++ [.mark '\x7d'], ?_, .tags parsed⟩
    simpa using closed

/-- The same for annotations inside another. -/
theorem exists_tokens_nested (tags : List Tag) (names : Resolver) (nonempty : tags ≠ [])
    (expressible : ExpressibleTags tags)
    (understood : Understands denotes names (nestedMentions tags)) :
    ∃ tokens, scanLines (names.answer (nestedLines tags)) = some tokens ∧
      ReadsTags denotes tokens (camelTags tags) := by
  match tags with
  | [] => exact absurd rfl nonempty
  | [last] =>
    obtain ⟨tokens, scanned, parsed⟩ :=
      exists_tokens_annotation last names expressible.1 (understands_append_iff.1 understood).1
    rw [nestedLines, (asks_tag last).answer_bind_after]
    exact ⟨tokens, scanLines_indentLines scanned, .single parsed⟩
  | first :: second :: rest =>
    rw [nestedMentions, understands_append_iff] at understood
    obtain ⟨here, scanned, parsed⟩ :=
      exists_tokens_annotation first names expressible.1 understood.1
    obtain ⟨behind, walked, later⟩ :=
      exists_tokens_nested (second :: rest) _ (List.cons_ne_nil _ _) expressible.2 understood.2
    have separated := scanLines_withComma (annotationLines_ne_nil names first) scanned
    have whole := scanLines_append (scanLines_indentLines separated) walked
    rw [nestedLines, (asks_tag first).answer_bind_after,
      (asks_nestedLines (second :: rest)).answer_bind_after, Resolver.answer_pure]
    · refine ⟨here ++ .mark ',' :: behind, ?_, .cons parsed later⟩
      simpa [annotationLines] using whole
    · exact List.cons_ne_nil _ _

end

end EntityGen.Java
