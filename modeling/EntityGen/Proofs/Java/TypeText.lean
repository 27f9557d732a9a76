/-
  Proofs/Java/TypeText.lean --- texts of types.

  Source: the grammar of types in Java: primitive types, class types, and type arguments,
  which are reference types.

  Which of the types that members have are written as Java reads them. Java lets a list have
  elements of reference types only, the names of classes and lists of such elements. A
  number or a truth value is written by a keyword, and by the name of a class where it may
  be absent; a list is made of the text of its elements, whatever that is. The text is
  therefore a type of Java exactly if no list is one of bare numbers or truth values.
-/
import EntityGen.Java.TypeText
import EntityGen.Proofs.Java.Identifier
import Mathlib.Tactic.ByContra

set_option autoImplicit false

namespace EntityGen.Java

open EntityGen.Blueprint (Primitive TypeRef)
open EntityGen.Naming (simpleNameOf)

/-! ## Types of Java -/

/-- The keywords that stand for types of numbers and truth values. -/
def primitiveKeywords : List String :=
  ["int", "long", "float", "double", "boolean"]

/-- Which words are identifiers: those that the generator takes for identifiers, and maybe words with
letters beyond ASCII. -/
structure IdentifierRule where
  /-- The word is an identifier. -/
  admits : String → Prop
  ascii : ∀ {word}, isIdentifier word = true → admits word
  plain : ∀ {word}, admits word → '<' ∉ word.toList
  new : ∀ {word}, admits word → word ∉ primitiveKeywords

/-- The rule that the generator itself goes by. -/
def IdentifierRule.own : IdentifierRule where
  admits word := isIdentifier word = true
  ascii := id
  plain := by
    intro word legal mem
    exact absurd (hasIdentifierParts_of_isIdentifier legal '<' mem) (by decide)
  new := by
    intro word legal mem
    have keywords : ∀ word ∈ primitiveKeywords, isIdentifier word = false := by decide
    rw [keywords word mem] at legal
    exact Bool.false_ne_true legal

variable {rule : IdentifierRule}

/-- The text is the name of a class: identifiers with dots between them. -/
def IsClassName (rule : IdentifierRule) (text : String) : Prop :=
  ∀ word ∈ Text.split '.' text, rule.admits word

/-- How the type of lists is written. -/
def listNames : List String :=
  ["List", "java.util.List"]

/-- The text of a reference type: the name of a class, or lists of a reference type. -/
inductive IsReferenceType (rule : IdentifierRule) : String → Prop where
  | named {text : String} (legal : IsClassName rule text) : IsReferenceType rule text
  | list {head argument : String} (known : head ∈ listNames)
      (inner : IsReferenceType rule argument) :
      IsReferenceType rule (head ++ "<" ++ argument ++ ">")

/-- The text of a type that members can have. -/
def IsJavaType (rule : IdentifierRule) (text : String) : Prop :=
  text ∈ primitiveKeywords ∨ IsReferenceType rule text

/-! ## Names and keywords -/

section Texts

variable {text head argument : String}

/-- The generator's identifiers make names of classes by any rule. -/
theorem isClassName_of_all (legal : (Text.split '.' text).all isIdentifier = true) :
    IsClassName rule text :=
  fun word mem => rule.ascii (List.all_eq_true.1 legal word mem)

theorem IsClassName.plain (legal : IsClassName rule text) : '<' ∉ text.toList := by
  intro mem
  have other : '<' ≠ '.' := by decide
  obtain ⟨piece, among, inside⟩ := (Text.exists_mem_piecesAt_iff other).2 mem
  refine rule.plain (legal (String.ofList piece) (List.mem_map_of_mem among)) ?_
  rw [String.toList_ofList]
  exact inside

/-- The last of the identifiers is the name of a class as well. -/
theorem IsClassName.simpleNameOf (legal : IsClassName rule text) :
    IsClassName rule (simpleNameOf text) := by
  intro word mem
  rw [Text.split_of_not_mem (Naming.not_mem_simpleNameOf text)] at mem
  rw [List.mem_singleton.1 mem]
  refine legal _ ?_
  unfold Naming.simpleNameOf
  split
  · rename_i before after cut
    obtain ⟨whole, free⟩ := Text.cutAtLast_eq_some_iff.1 cut
    rw [Text.split, whole, Text.piecesAt_append_mark, Text.piecesAt_of_not_mem free]
    simp
  · rename_i uncut
    rw [Text.split_of_not_mem (Text.cutAtLast_eq_none_iff.1 uncut)]
    exact List.mem_singleton_self text

/-- Where the type of lists has type arguments, there is a bracket. -/
theorem mem_list_text : '<' ∈ (head ++ "<" ++ argument ++ ">").toList := by
  simp [String.toList_append]

/-- No keyword is a reference type. -/
theorem not_isReferenceType_of_mem_keywords (keyword : text ∈ primitiveKeywords) :
    ¬ IsReferenceType rule text := by
  have alone : ∀ text ∈ primitiveKeywords, '.' ∉ text.toList ∧ '<' ∉ text.toList := by decide
  obtain ⟨undotted, plain⟩ := alone text keyword
  intro reference
  cases reference with
  | named legal =>
    have only : text ∈ Text.split '.' text := by
      rw [Text.split_of_not_mem undotted]
      exact List.mem_singleton_self text
    exact rule.new (legal text only) keyword
  | list known inner => exact plain mem_list_text

/-- Lists are a reference type exactly if their elements are of one. -/
theorem isReferenceType_list_iff (known : head ∈ listNames) :
    IsReferenceType rule (head ++ "<" ++ argument ++ ">") ↔ IsReferenceType rule argument := by
  have heads : ∀ head ∈ listNames, '<' ∉ head.toList := by decide
  constructor
  · intro reference
    generalize whole : head ++ "<" ++ argument ++ ">" = text at reference
    cases reference with
    | named legal => exact absurd mem_list_text (whole ▸ legal.plain)
    | @list other inside known' inner =>
      -- No head has a bracket in it, so that the first bracket ends the heads of both.
      have chars : head.toList ++ '<' :: (argument.toList ++ ['>']) =
          other.toList ++ '<' :: (inside.toList ++ ['>']) := by
        simpa [String.toList_append] using congrArg String.toList whole
      have arguments := (Text.append_mark_inj (heads head known) (heads other known') chars).2
      rw [String.toList_inj.1 (List.append_cancel_right arguments)]
      exact inner
  · exact IsReferenceType.list known

end Texts

/-! ## Types of members -/

/-- All names are names of classes, and there is no type without values. -/
def NamesClasses (rule : IdentifierRule) : TypeRef → Prop
  | .primitive _ => True
  | .optional inner => NamesClasses rule inner
  | .array inner => NamesClasses rule inner
  | .named name => IsClassName rule name
  | .unit => False

/-- A number or a truth value that is always there. -/
def IsBare : TypeRef → Prop
  | .primitive .int | .primitive .long | .primitive .float | .primitive .double
  | .primitive .bool => True
  | _ => False

/-- No list is one of bare numbers or truth values. -/
def ListsReferences : TypeRef → Prop
  | .array inner => ¬ IsBare inner ∧ ListsReferences inner
  | .optional inner => ListsReferences inner
  | _ => True

/-- What is written for a type in a file with these names. -/
def textIn (resolver : Resolver) (type : TypeRef) : String :=
  ((typeText type).run resolver).1

section Members

variable {type inner : TypeRef}

/-- A name is written as it is or without its package, whatever was written before. -/
theorem resolve_eq_or (resolver : Resolver) (name : String) :
    ((Resolver.resolve name).run resolver).1 = name ∨
      ((Resolver.resolve name).run resolver).1 = simpleNameOf name := by
  change (Resolver.resolve name resolver).1 = name ∨ (Resolver.resolve name resolver).1 = _
  unfold Resolver.resolve
  simp only
  split
  · split
    · split
      · exact Or.inr rfl
      · exact Or.inl rfl
    · exact Or.inr rfl
  · exact Or.inl rfl

/-- The name of a class is written as the name of a class. -/
theorem isReferenceType_resolve {name : String} (legal : IsClassName rule name)
    (resolver : Resolver) : IsReferenceType rule ((Resolver.resolve name).run resolver).1 := by
  rcases resolve_eq_or resolver name with same | simple
  · rw [same]
    exact .named legal
  · rw [simple]
    exact .named legal.simpleNameOf

/-- Bare types are built in, and there are no lists in them. -/
theorem exists_primitive_of_isBare (bare : IsBare type) :
    ∃ primitive, type = .primitive primitive := by
  cases type with
  | primitive primitive => exact ⟨primitive, rfl⟩
  | optional inner => exact bare.elim
  | array inner => exact bare.elim
  | named name => exact bare.elim
  | unit => exact bare.elim

theorem listsReferences_of_isBare (bare : IsBare type) : ListsReferences type := by
  obtain ⟨primitive, rfl⟩ := exists_primitive_of_isBare bare
  trivial

/-- Bare types are written by keywords. -/
theorem mem_keywords_of_isBare (bare : IsBare type) (resolver : Resolver) :
    textIn resolver type ∈ primitiveKeywords := by
  unfold IsBare at bare
  split at bare
  · exact (by decide : "int" ∈ primitiveKeywords)
  · exact (by decide : "long" ∈ primitiveKeywords)
  · exact (by decide : "float" ∈ primitiveKeywords)
  · exact (by decide : "double" ∈ primitiveKeywords)
  · exact (by decide : "boolean" ∈ primitiveKeywords)
  · exact bare.elim

/-- The class whose objects are the values of a built-in type. -/
def boxedClass : Primitive → String
  | .string => "java.lang.String"
  | .int => "java.lang.Integer"
  | .long => "java.lang.Long"
  | .float => "java.lang.Float"
  | .double => "java.lang.Double"
  | .bool => "java.lang.Boolean"
  | .dateTime => "java.util.Date"

theorem boxedPrimitive_eq (primitive : Primitive) :
    boxedPrimitive primitive = Resolver.resolve (boxedClass primitive) := by
  cases primitive <;> rfl

theorem isClassName_boxedClass (primitive : Primitive) :
    IsClassName rule (boxedClass primitive) := by
  refine isClassName_of_all ?_
  cases primitive <;> decide

/-- A built-in type that may be absent is written by the name of a class. -/
theorem isReferenceType_optional_primitive (primitive : Primitive) (resolver : Resolver) :
    IsReferenceType rule (textIn resolver (.optional (.primitive primitive))) := by
  change IsReferenceType rule ((boxedPrimitive primitive).run resolver).1
  rw [boxedPrimitive_eq]
  exact isReferenceType_resolve (isClassName_boxedClass primitive) resolver

/-- All types but bare ones are written alike where they may be absent. -/
theorem textIn_optional (present : ¬ IsBare inner) (resolver : Resolver) :
    textIn resolver (.optional inner) = textIn resolver inner := by
  cases inner with
  | primitive primitive =>
    cases primitive with
    | string => rfl
    | dateTime => rfl
    | _ => exact absurd trivial present
  | optional inner => rfl
  | array inner => rfl
  | named name => rfl
  | unit => rfl

/-- A list is the text of its elements between brackets. -/
theorem exists_textIn_array (resolver : Resolver) (inner : TypeRef) :
    ∃ head ∈ listNames,
      textIn resolver (.array inner) = head ++ "<" ++ textIn resolver inner ++ ">" := by
  have made : textIn resolver (.array inner) =
      ((Resolver.resolve "java.util.List").run ((typeText inner).run resolver).2).1 ++ "<" ++
        textIn resolver inner ++ ">" := rfl
  refine ⟨_, ?_, made⟩
  have simple : simpleNameOf "java.util.List" = "List" := by decide
  rcases resolve_eq_or ((typeText inner).run resolver).2 "java.util.List" with same | short
  · rw [same]
    decide
  · rw [short, simple]
    decide

/-- What is written for a type is a reference type exactly if neither the type is bare nor the elements
of a list in it are. -/
theorem isReferenceType_textIn_iff (legal : NamesClasses rule type) (resolver : Resolver) :
    IsReferenceType rule (textIn resolver type) ↔ ¬ IsBare type ∧ ListsReferences type := by
  induction type with
  | primitive primitive =>
    by_cases bare : IsBare (.primitive primitive)
    · exact iff_of_false (not_isReferenceType_of_mem_keywords (mem_keywords_of_isBare bare resolver))
        fun both => both.1 bare
    · refine iff_of_true ?_ ⟨bare, trivial⟩
      rw [← textIn_optional bare]
      exact isReferenceType_optional_primitive primitive resolver
  | optional inner ih =>
    by_cases bare : IsBare inner
    · obtain ⟨primitive, rfl⟩ := exists_primitive_of_isBare bare
      exact iff_of_true (isReferenceType_optional_primitive primitive resolver) ⟨id, trivial⟩
    · rw [textIn_optional bare, ih legal]
      exact and_congr (iff_of_true bare id) Iff.rfl
  | array inner ih =>
    obtain ⟨head, known, text⟩ := exists_textIn_array resolver inner
    rw [text, isReferenceType_list_iff known, ih legal]
    exact (and_iff_right id).symm
  | named name => exact iff_of_true (isReferenceType_resolve legal resolver) ⟨id, trivial⟩
  | unit => exact legal.elim

/-- A keyword alone is written for bare types only. -/
theorem mem_keywords_textIn_iff (legal : NamesClasses rule type) (resolver : Resolver) :
    textIn resolver type ∈ primitiveKeywords ↔ IsBare type := by
  refine ⟨fun keyword => ?_, fun bare => mem_keywords_of_isBare bare resolver⟩
  by_contra present
  have unreferenced : ¬ IsReferenceType rule (textIn resolver type) :=
    not_isReferenceType_of_mem_keywords keyword
  induction type with
  | primitive primitive =>
    rw [← textIn_optional present] at unreferenced
    exact unreferenced (isReferenceType_optional_primitive primitive resolver)
  | optional inner ih =>
    by_cases bare : IsBare inner
    · obtain ⟨primitive, rfl⟩ := exists_primitive_of_isBare bare
      exact unreferenced (isReferenceType_optional_primitive primitive resolver)
    · rw [textIn_optional bare] at keyword unreferenced
      exact ih legal keyword bare unreferenced
  | array inner ih =>
    obtain ⟨head, known, text⟩ := exists_textIn_array resolver inner
    have brackets : ∀ text ∈ primitiveKeywords, '<' ∉ text.toList := by decide
    exact brackets _ keyword (text ▸ mem_list_text)
  | named name => exact unreferenced (isReferenceType_resolve legal resolver)
  | unit => exact legal

end Members

/-! ## Types that are written as Java reads them -/

/-- However types are nested and whatever a file has mentioned before, what is written for a type is a
type of Java exactly if no list in it is one of bare numbers or truth values. It is a reference type
exactly if the type itself is not bare either. -/
theorem java_type_written_iff {type : TypeRef} (legal : NamesClasses rule type)
    (resolver : Resolver) :
    (IsJavaType rule ((typeText type).run resolver).1 ↔ ListsReferences type) ∧
    (IsReferenceType rule ((typeText type).run resolver).1 ↔
      ¬ IsBare type ∧ ListsReferences type) := by
  have reference := isReferenceType_textIn_iff legal resolver
  have keyword := mem_keywords_textIn_iff legal resolver
  refine ⟨?_, reference⟩
  change textIn resolver type ∈ primitiveKeywords ∨ IsReferenceType rule (textIn resolver type) ↔ _
  rw [keyword, reference]
  constructor
  · rintro (bare | ⟨-, lists⟩)
    · exact listsReferences_of_isBare bare
    · exact lists
  · intro lists
    by_cases bare : IsBare type
    · exact Or.inl bare
    · exact Or.inr ⟨bare, lists⟩

/-- Lists in a file whose own type takes the simple name of lists. The name of the elements is written
without its package and that of lists with it. -/
theorem java_type_written_nested :
    NamesClasses .own (.array (.optional (.array (.named "org.acme.Invoice")))) ∧
    ((typeText (.array (.optional (.array (.named "org.acme.Invoice"))))).run
      (.declaring "org.acme.List")).1 = "java.util.List<java.util.List<Invoice>>" ∧
    IsReferenceType .own "java.util.List<java.util.List<Invoice>>" := by
  have legal : NamesClasses .own (.array (.optional (.array (.named "org.acme.Invoice")))) := by
    have named : IsClassName .own "org.acme.Invoice" := isClassName_of_all (by decide)
    exact named
  have text : ((typeText (.array (.optional (.array (.named "org.acme.Invoice"))))).run
      (.declaring "org.acme.List")).1 = "java.util.List<java.util.List<Invoice>>" := by decide
  refine ⟨legal, text, ?_⟩
  rw [← text]
  exact (java_type_written_iff legal _).2.2 ⟨id, id, id, trivial⟩

/-- A list of bare numbers is written with a keyword for its elements. -/
theorem keyword_written_in_list :
    NamesClasses .own (.array (.primitive .int)) ∧
    ((typeText (.array (.primitive .int))).run (.declaring "org.acme.Invoice")).1 = "List<int>" ∧
    ¬ IsJavaType .own "List<int>" := by
  refine ⟨trivial, by decide, ?_⟩
  rintro (alone | reference)
  · exact absurd alone (by decide)
  · have known : "List" ∈ listNames := by decide
    have keyword : "int" ∈ primitiveKeywords := by decide
    exact not_isReferenceType_of_mem_keywords keyword ((isReferenceType_list_iff known).1 reference)

end EntityGen.Java
