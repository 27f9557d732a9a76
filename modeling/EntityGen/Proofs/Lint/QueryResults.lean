/-
  Proofs/Lint/QueryResults.lean --- results of queries.

  Source: the specification, section 3 (`returns_sequence()`), section 4.3 (signatures)
  and section 7 (the warning).

  When a query yields many objects, told from the text of its declared result by a grammar:
  one of the sequence types between blanks, and type arguments behind it or nothing. The
  signature of the query and the warning about it are decided by this grammar.

  The four sequence types are spelled out in the grammar, as the specification spells them.
-/
import EntityGen.Blueprint.Signature
import EntityGen.Lint.QueryReturnType
import EntityGen.Proofs.Naming
import EntityGen.Proofs.Text.Blank

set_option autoImplicit false

namespace EntityGen

open Text (AllBlank FreeOfBlanks isBlank trimChars trimEndChars)

/-! ## The grammar of sequence types -/

namespace Model

/-- The text is the word between blanks, with type arguments behind it or nothing. What stands after
the opening bracket of the arguments may be anything. -/
def Applies (word type : String) : Prop :=
  ∃ before after rest, type.toList = before ++ word.toList ++ after ++ rest ∧
    AllBlank before ∧ AllBlank after ∧ (rest = [] ∨ ∃ arguments, rest = '<' :: arguments)

/-- The text is one of the sequence types, with or without type arguments. -/
def NamesSequence (type : String) : Prop :=
  ∃ base ∈ ["java.util.List", "java.util.Collection", "List", "Collection"], Applies base type

/-- The word can be told from what stands around it: there is something of it, and neither a blank nor
a bracket is in it. -/
structure Separable (word : String) : Prop where
  nonempty : word.toList ≠ []
  free : FreeOfBlanks word.toList
  plain : '<' ∉ word.toList

variable {word type : String}

/-- A type without arguments is what is left of it without the blanks around it. -/
theorem rawType_of_plain (plain : '<' ∉ trimChars type.toList) :
    (rawType type).toList = trimChars type.toList := by
  have absent : (trimChars type.toList).contains '<' = false := by simpa using plain
  have all := Text.takeWhile_of_not_mem plain []
  rw [List.takeWhile_nil, List.append_nil] at all
  rw [rawType, String.toList_ofList]
  simp only [absent, Bool.false_eq_true, if_false, all]

/-- A type with arguments is what stands before them, without the blanks at its end. -/
theorem rawType_of_applied {front arguments : List Char}
    (whole : trimChars type.toList = front ++ '<' :: arguments) (plain : '<' ∉ front) :
    (rawType type).toList = trimEndChars front := by
  have present : (trimChars type.toList).contains '<' = true := by simp [whole]
  have cut : (trimChars type.toList).takeWhile (· != '<') = front := by
    rw [whole, Text.takeWhile_of_not_mem plain]
    simp
  rw [rawType, String.toList_ofList]
  simp only [present, if_true, cut]

/-- What a type is without arguments stands in it between blanks. -/
theorem applies_rawType (type : String) : Applies (rawType type) type := by
  obtain ⟨before, behind, whole, first, last⟩ := Text.exists_append_trimChars_append type.toList
  by_cases applied : '<' ∈ trimChars type.toList
  · obtain ⟨front, arguments, parts, plain⟩ := List.eq_append_cons_of_mem applied
    obtain ⟨after, front_eq, inner⟩ := Text.exists_trimEndChars_append front
    refine ⟨before, after, '<' :: (arguments ++ behind), ?_, first, inner, Or.inr ⟨_, rfl⟩⟩
    rw [rawType_of_applied parts plain, List.append_assoc before, ← front_eq, whole, parts]
    simp
  · refine ⟨before, behind, [], ?_, first, last, Or.inl rfl⟩
    rw [rawType_of_plain applied, List.append_nil]
    exact whole

/-- A word that stands in a type between blanks is what the type is without arguments. -/
theorem Applies.rawType_eq (applies : Applies word type) (separable : Separable word) :
    rawType type = word := by
  obtain ⟨before, after, rest, whole, leading, trailing, ending⟩ := applies
  have trimmed : trimChars type.toList = trimEndChars (word.toList ++ after ++ rest) := by
    obtain ⟨first, others, chars⟩ := List.exists_cons_of_ne_nil separable.nonempty
    have solid : isBlank first = false := separable.free first (chars ▸ List.mem_cons_self)
    rw [whole, List.append_assoc before, List.append_assoc before,
      Text.trimChars_blank_append leading, chars]
    exact Text.trimChars_cons solid _
  have left := Text.trimEndChars_word_append separable.free trailing
  rw [← String.toList_inj]
  rcases ending with rfl | ⟨arguments, rfl⟩
  · rw [List.append_nil, left] at trimmed
    rw [rawType_of_plain (trimmed ▸ separable.plain), trimmed]
  · -- The bracket is not blank, so that the first one stays where it was.
    have plain : '<' ∉ word.toList ++ after := by
      rw [List.mem_append, not_or]
      exact ⟨separable.plain, fun mem => absurd (trailing '<' mem) (by decide)⟩
    rw [Text.trimEndChars_append_cons (by decide)] at trimmed
    rw [rawType_of_applied trimmed plain, left]

/-- The sequence types are written without blanks and without arguments. -/
theorem separable_of_mem_sequenceTypes (mem : word ∈ sequenceTypes) : Separable word := by
  have all : ∀ word ∈ sequenceTypes,
      word.toList ≠ [] ∧ FreeOfBlanks word.toList ∧ '<' ∉ word.toList := by decide
  obtain ⟨nonempty, free, plain⟩ := all word mem
  exact ⟨nonempty, free, plain⟩

/-- The declared result is a sequence of objects exactly if its text follows the grammar. -/
theorem Query.returnsSequence_iff {query : Query} :
    query.returnsSequence = true ↔ NamesSequence query.returnType := by
  rw [Query.returnsSequence, List.contains_iff_mem]
  constructor
  · intro mem
    exact ⟨rawType query.returnType, mem, applies_rawType query.returnType⟩
  · rintro ⟨base, mem, applies⟩
    rwa [applies.rawType_eq (separable_of_mem_sequenceTypes mem)]

instance (type : String) : Decidable (NamesSequence type) :=
  decidable_of_iff _ (@Query.returnsSequence_iff ⟨"", "", type, []⟩)

/-- Blanks may stand on both sides of a sequence type, and anything behind the first bracket. -/
example : NamesSequence "\u00A0 java.util.List \u3000<Invoice, <" ∧
    ¬ NamesSequence "List Invoice<" := by
  decide

end Model

/-! ## What the grammar decides -/

namespace Lint.QueryReturnType

open EntityGen.Blueprint (Signature)
open EntityGen.Model (BusinessObject DataModel NamesSequence Query)

/-- The query declares neither many objects nor, but for blanks, the object that it belongs to. -/
def Unexpected (object : BusinessObject) (query : Query) : Prop :=
  ¬ NamesSequence query.returnType ∧ Text.trim query.returnType ≠ object.qualifiedName ∧
    Text.trim query.returnType ≠ object.simpleName

instance (object : BusinessObject) (query : Query) : Decidable (Unexpected object query) :=
  inferInstanceAs (Decidable (_ ∧ _))

/-- The warning about a query. -/
def warning (object : BusinessObject) (query : Query) : Diagnostic :=
  let type := Text.trim query.returnType
  ⟨.warning, "query-return-type",
    s!"query '{query.name}' returns '{type}', generating a single '{object.simpleName}' " ++
      "result instead",
    some s!"{object.qualifiedName}.queries.{query.name}"⟩

/-- The lint asks the same of the text that the grammar says about it. -/
theorem unexpected_iff {object : BusinessObject} {query : Query} :
    Unexpected object query ↔
      ¬ (query.returnsSequence || Text.trim query.returnType == object.qualifiedName ||
        Text.trim query.returnType == object.simpleName) = true := by
  simp only [Unexpected, ← Model.Query.returnsSequence_iff, Bool.or_eq_true, beq_iff_eq, not_or,
    and_assoc, ne_eq]

theorem checkQuery_of_unexpected {object : BusinessObject} {query : Query}
    (unexpected : Unexpected object query) :
    checkQuery object query = [warning object query] := by
  simp only [checkQuery]
  rw [if_neg (unexpected_iff.1 unexpected)]
  rfl

theorem checkQuery_of_expected {object : BusinessObject} {query : Query}
    (expected : ¬ Unexpected object query) : checkQuery object query = [] := by
  simp only [checkQuery]
  rw [if_pos (not_not.1 (mt unexpected_iff.2 expected))]

/-- The warnings about an object are those about its unexpected queries, in their order. -/
theorem check_eq (object : BusinessObject) :
    check object = (object.queries.filter fun query => decide (Unexpected object query)).map
      (warning object) := by
  rw [check]
  induction object.queries with
  | nil => rfl
  | cons query rest ih =>
    rw [List.flatMap_cons, ih]
    by_cases unexpected : Unexpected object query
    · rw [checkQuery_of_unexpected unexpected, List.filter_cons_of_pos (by simpa using unexpected),
        List.map_cons, List.singleton_append]
    · rw [checkQuery_of_expected unexpected, List.filter_cons_of_neg (by simpa using unexpected),
        List.nil_append]

/-- Whether a query yields many objects, how it is called and whether there is a warning about it all
follow from the grammar: many objects come page by page, behind two more parameters than the declared
ones, and one object comes without them; the warnings in a model are about the queries whose result
is neither. -/
theorem results_follow_grammar (query : Query) (object : BusinessObject) (model : DataModel) :
    (query.returnsSequence = true ↔ NamesSequence query.returnType) ∧
    (Signature.ofQuery query object =
      let declared := query.parameters.map fun parameter =>
        ⟨parameter.name, .named parameter.className⟩
      if NamesSequence query.returnType then
        ⟨query.name, .array (.named object.qualifiedName),
          declared ++ [⟨"startIndex", .primitive .int⟩, ⟨"maxResults", .primitive .int⟩]⟩
      else ⟨query.name, .named object.qualifiedName, declared⟩) ∧
    (checkQuery object query =
      if Unexpected object query then [warning object query] else []) ∧
    queryReturnType.check model = model.objects.flatMap fun object =>
      (object.queries.filter fun query => decide (Unexpected object query)).map
        (warning object) := by
  refine ⟨Model.Query.returnsSequence_iff, ?_, ?_, ?_⟩
  · by_cases many : NamesSequence query.returnType
    · simp only [Signature.ofQuery, Model.Query.returnsSequence_iff.2 many, if_true, if_pos many]
      rfl
    · have one : query.returnsSequence = false := by
        simpa using mt Model.Query.returnsSequence_iff.1 many
      simp only [Signature.ofQuery, one, Bool.false_eq_true, if_false, if_neg many]
  · split
    · exact checkQuery_of_unexpected ‹_›
    · exact checkQuery_of_expected ‹_›
  · exact congrArg model.objects.flatMap (funext check_eq)

end Lint.QueryReturnType

end EntityGen
