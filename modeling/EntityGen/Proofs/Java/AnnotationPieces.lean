/-
  Proofs/Java/AnnotationPieces.lean --- pieces of annotations.

  Source: `Java/Annotation.lean`, piece by piece, and the scanner of
  `Proofs/Java/AnnotationReader.lean`.

  The tokens of what annotations are put together from: the names of types as a file writes
  them, the names of attributes, numerals, constants and lists of texts. The lines of an
  annotation that is being written have the tokens of its pieces, one after the other.
-/
import EntityGen.Proofs.Java.AnnotationTokens
import EntityGen.Proofs.Java.Identifier
import EntityGen.Proofs.Java.Platform
import EntityGen.Proofs.Java.Settled

set_option autoImplicit false

namespace EntityGen.Java

open EntityGen.Blueprint (Tag TagKind TagValue)
open EntityGen.Naming (namespaceOf simpleNameOf)

/-! ## Types -/

/-- What is written for each of the types denotes it. -/
def Understands (denotes : String → String) (names : Resolver) (mentions : List String) : Prop :=
  (names.answer (mentions.mapM Resolver.resolve)).map denotes = mentions

section Types

variable {denotes : String → String} {names : Resolver} {mentions more : List String}

theorem understands_append_iff :
    Understands denotes names (mentions ++ more) ↔
      Understands denotes names mentions ∧ Understands denotes (names.after mentions) more := by
  have early : (names.answer (mentions.mapM Resolver.resolve)).length = mentions.length :=
    length_answers mentions names
  have whole : names.answer ((mentions ++ more).mapM Resolver.resolve) =
      names.answer (mentions.mapM Resolver.resolve) ++
        (names.after mentions).answer (more.mapM Resolver.resolve) :=
    congrArg Prod.fst (run_mapM_append mentions more names)
  unfold Understands
  rw [whole, List.map_append]
  constructor
  · intro same
    exact List.append_inj same (by rw [List.length_map, early])
  · rintro ⟨first, second⟩
    rw [first, second]

theorem understands_singleton_iff {name : String} :
    Understands denotes names [name] ↔ denotes (names.answer (Resolver.resolve name)) = name := by
  have single : names.answer ([name].mapM Resolver.resolve) =
      [names.answer (Resolver.resolve name)] :=
    congrArg Prod.fst (run_mapM_cons name [] names)
  rw [Understands, single, List.map_singleton, List.cons_eq_cons]
  exact and_iff_left rfl

theorem understands_cons_iff {name : String} :
    Understands denotes names (name :: mentions) ↔
      denotes (names.answer (Resolver.resolve name)) = name ∧
        Understands denotes (names.after [name]) mentions := by
  rw [← List.singleton_append, understands_append_iff, understands_singleton_iff]

/-- A type is written by its simple name or by its dotted one. -/
theorem answer_resolve_cases (names : Resolver) (name : String) :
    names.answer (Resolver.resolve name) = simpleNameOf name ∨
      names.answer (Resolver.resolve name) = name := by
  change (Resolver.resolve name names).1 = _ ∨ (Resolver.resolve name names).1 = _
  unfold Resolver.resolve
  simp only
  split
  · split
    · rename_i owner claimed
      by_cases own : owner = name
      · exact Or.inl (if_pos own)
      · exact Or.inr (if_neg own)
    · exact Or.inl rfl
  · exact Or.inr rfl

end Types

/-! ## Words -/

section Words

variable {denotes : String → String} {kind : TagKind}

theorem isWordChar_of_isIdentifierPart {c : Char} (part : isIdentifierPart c = true) :
    isWordChar c = true := by
  rw [isWordChar, part, Bool.true_or]

theorem isWord_of_isIdentifier {name : String} (identifier : isIdentifier name = true) :
    IsWord name := by
  obtain ⟨first, rest, chars, start, parts, -⟩ := isIdentifier_iff.1 identifier
  unfold IsWord
  rw [chars, List.all_eq_true]
  refine ⟨List.cons_ne_nil _ _, List.forall_mem_cons.2 ⟨?_, fun c mem => ?_⟩⟩
  · exact isWordChar_of_isIdentifierPart (isIdentifierPart_of_start start)
  · exact isWordChar_of_isIdentifierPart (parts c mem)

/-- The names under which tags have attributes. -/
def attributeNames : List String :=
  ["name", "query", "column_names", "unique_constraints", "nullable", "length",
    Blueprint.valueAttribute]

theorem isIdentifier_camelCase :
    ∀ name ∈ attributeNames, isIdentifier (camelCase name) = true := by
  decide

/-- The types of annotations are written as one word. -/
theorem isWord_answer_resolve (names : Resolver) {type : String} (mem : type ∈ annotationTypes) :
    IsWord (names.answer (Resolver.resolve type)) := by
  have dotted : ∀ type ∈ annotationTypes, IsWord type := by decide
  have simple : ∀ type ∈ annotationTypes, IsWord (simpleNameOf type) := by decide
  rcases answer_resolve_cases names type with same | same
  · rw [same]
    exact simple type mem
  · rw [same]
    exact dotted type mem

theorem kindOf?_annotationType (kind : TagKind) : kindOf? (annotationType kind) = some kind := by
  cases kind <;> decide

theorem head?_toDigits_ne {n : Nat} (positive : 0 < n) : (Nat.toDigits 10 n).head? ≠ some '0' := by
  induction n using Nat.strongRecOn with
  | ind n ih =>
    by_cases small : n < 10
    · rw [Nat.toDigits_of_lt_base small]
      have digits : ∀ n < 10, 0 < n → [n.digitChar].head? ≠ some '0' := by decide
      exact digits n small positive
    · have tenth := ih (n / 10) (by omega) (by omega)
      rw [Nat.toDigits_of_base_le (by decide) (by omega), List.head?_append]
      cases head : (Nat.toDigits 10 (n / 10)).head? with
      | none =>
        have empty := List.head?_eq_none_iff.1 head
        exact absurd empty Nat.toDigits_ne_nil
      | some c =>
        rw [head] at tenth
        simpa using tenth

theorem isNumeral_toDigits (n : Nat) : isNumeral (Nat.toDigits 10 n) = true := by
  have digits : (Nat.toDigits 10 n).all Char.isDigit = true :=
    List.all_eq_true.2 fun c mem => Nat.isDigit_of_mem_toDigits (by decide) (by decide) mem
  rw [isNumeral, digits, Bool.true_and]
  by_cases zero : n = 0
  · rw [zero]
    decide
  · simp [head?_toDigits_ne (Nat.pos_of_ne_zero zero)]

theorem isWord_of_isNumeral {word : String} (nonempty : word.toList ≠ [])
    (numeral : isNumeral word.toList = true) : IsWord word := by
  refine ⟨nonempty, List.all_eq_true.2 fun c mem => ?_⟩
  have digits := (Bool.and_eq_true_iff.1 numeral).1
  have digit := List.all_eq_true.1 digits c mem
  exact isWordChar_of_isIdentifierPart (by simp [isIdentifierPart, Char.isAlphanum, digit])

/-- A numeral is read as its number. -/
theorem wordValue?_number (denotes : String → String) (kind : TagKind) (n : Nat) :
    IsWord (toString n) ∧ wordValue? denotes kind (toString n) = some (.number n) := by
  have chars : (toString n).toList = Nat.toDigits 10 n := by
    rw [Nat.toString_eq_ofList_toDigits, String.toList_ofList]
  have numeral : isNumeral (toString n).toList = true := chars ▸ isNumeral_toDigits n
  constructor
  · exact isWord_of_isNumeral (chars ▸ Nat.toDigits_ne_nil) numeral
  · have notTrue : toString n ≠ "true" := by
      intro same
      rw [same] at numeral
      exact absurd numeral (by decide)
    have notFalse : toString n ≠ "false" := by
      intro same
      rw [same] at numeral
      exact absurd numeral (by decide)
    rw [wordValue?, if_neg notTrue, if_neg notFalse, if_pos numeral, chars,
      Nat.ofDigitChars_toDigits (by decide) (by decide)]

/-- A constant is read as itself if the type before it is the one that goes with the kind. -/
theorem wordValue?_constant {type owner name : String} (typed : constantType? kind = some type)
    (meaning : denotes owner = type) (plain : '.' ∉ name.toList) :
    wordValue? denotes kind (owner ++ "." ++ name) = some (.constant name) := by
  have dot : '.' ∈ (owner ++ "." ++ name).toList := by
    simp [String.toList_append]
  have notTrue : owner ++ "." ++ name ≠ "true" := by
    intro same
    rw [same] at dot
    exact absurd dot (by decide)
  have notFalse : owner ++ "." ++ name ≠ "false" := by
    intro same
    rw [same] at dot
    exact absurd dot (by decide)
  have notNumeral : ¬ isNumeral (owner ++ "." ++ name).toList = true := by
    intro numeral
    have digit := List.all_eq_true.1 (Bool.and_eq_true_iff.1 numeral).1 '.' dot
    exact absurd digit (by decide)
  have ownerOf : namespaceOf (owner ++ "." ++ name) = owner := Naming.namespaceOf_dotted plain owner
  have nameOf : simpleNameOf (owner ++ "." ++ name) = name := Naming.simpleNameOf_dotted plain owner
  rw [wordValue?, if_neg notTrue, if_neg notFalse, if_neg notNumeral, ownerOf, nameOf, typed,
    meaning, if_pos rfl]

theorem isWord_constant {owner name : String} (first : IsWord owner) (second : IsWord name) :
    IsWord (owner ++ "." ++ name) := by
  obtain ⟨nonempty, all⟩ := first
  unfold IsWord
  rw [String.toList_append, String.toList_append]
  constructor
  · simp [nonempty]
  · rw [List.all_append, List.all_append, all, second.2]
    decide

end Words

/-! ## Pieces of annotations -/

/-- The lines so far, and the line that goes on, have these tokens. -/
def Unfinished.HasTokens (unfinished : Unfinished) (tokens : List Token) : Prop :=
  scanLines (unfinished.lines ++ [unfinished.current]) = some tokens

section Pieces

variable {unfinished : Unfinished} {tokens more : List Token}

theorem Unfinished.HasTokens.continue (has : unfinished.HasTokens tokens) {text : String}
    (scanned : scan text = some more)
    (apart : EndsPlain unfinished.current ∨ StartsPlain text) :
    (unfinished.continue text).HasTokens (tokens ++ more) := by
  obtain ⟨here, behind, first, last, rfl⟩ := scanLines_append_iff.1 has
  rw [scanLines_singleton] at last
  have whole : scan (unfinished.current ++ text) = some (behind ++ more) :=
    scan_append apart last scanned
  refine scanLines_append_iff.2 ⟨here, behind ++ more, first, ?_, List.append_assoc _ _ _⟩
  rw [scanLines_singleton]
  exact whole

theorem Unfinished.HasTokens.break (has : unfinished.HasTokens tokens) {lines : List String}
    {next : String} {last : List Token} (scanned : scanLines lines = some more)
    (later : scan next = some last) :
    (unfinished.break lines next).HasTokens (tokens ++ more ++ last) := by
  have order : (unfinished.break lines next).lines ++ [next] =
      (unfinished.lines ++ [unfinished.current]) ++ lines ++ [next] := by
    simp [Unfinished.break]
  have ended : scanLines [next] = some last := by rwa [scanLines_singleton]
  change scanLines ((unfinished.break lines next).lines ++ [next]) = _
  rw [order]
  exact scanLines_append (scanLines_append has scanned) ended

theorem isSeparator_at : IsSeparator "@" [.mark '@'] := by decide

theorem isSeparator_open : IsSeparator "(" [.mark '('] := by decide

theorem isSeparator_close : IsSeparator ")" [.mark ')'] := by decide

theorem isSeparator_assign : IsSeparator " = " [.mark '='] := by decide

theorem Unfinished.HasTokens.closed (has : unfinished.HasTokens tokens) :
    scanLines (unfinished.lines ++ [unfinished.current ++ ")"]) = some (tokens ++ [.mark ')']) :=
  has.continue isSeparator_close.scanned (Or.inr isSeparator_close.begins)

theorem scan_at_word {word : String} (single : IsWord word) :
    scan ("@" ++ word) = some [.mark '@', .word word] :=
  isSeparator_at.before (scan_word single)

/-- What stands before the attributes. -/
theorem hasTokens_opened {word : String} (single : IsWord word) :
    Unfinished.HasTokens ⟨[], "@" ++ word ++ "("⟩ [.mark '@', .word word, .mark '('] := by
  rw [Unfinished.HasTokens, List.nil_append, scanLines_singleton]
  exact isSeparator_open.behind (scan_at_word single)

theorem endsPlain_opened (word : String) : EndsPlain ("@" ++ word ++ "(") :=
  isSeparator_open.endsPlain _

/-- What stands before the value of an attribute that has a name. -/
theorem scan_attributeLead (first : Bool) {name : String}
    (identifier : isIdentifier (camelCase name) = true) :
    scan (attributeLead first false name) =
      some ((if first then [] else [.mark ',']) ++ [.word (camelCase name), .mark '=']) := by
  have assigned := isSeparator_assign.behind (scan_word (isWord_of_isIdentifier identifier))
  cases first with
  | true =>
    have lead : attributeLead true false name = camelCase name ++ " = " := String.empty_append
    rw [lead]
    exact assigned
  | false => exact isSeparator_commaBlank.before assigned

/-- Nothing stands before a value without a name. -/
theorem continue_positional (unfinished : Unfinished) (name : String) :
    unfinished.continue (attributeLead true true name) = unfinished := by
  simp [Unfinished.continue, attributeLead]

/-- A comma comes before all attributes but the first. -/
theorem startsPlain_attributeLead (name : String) :
    StartsPlain (attributeLead false false name) :=
  isSeparator_commaBlank.startsPlain _

theorem endsPlain_attributeLead (text : String) (first : Bool) (name : String) :
    EndsPlain (text ++ attributeLead first false name) := by
  have shape : text ++ attributeLead first false name =
      text ++ (if first then "" else ", ") ++ camelCase name ++ " = " := by
    rw [String.append_assoc, String.append_assoc]
    rfl
  rw [shape]
  exact isSeparator_assign.endsPlain _

theorem scan_joined_literals (items : List String) :
    scan (Text.join ", " (items.map stringLiteral)) =
      some ((items.map Token.text).intersperse (.mark ',')) := by
  induction items with
  | nil => rfl
  | cons first rest ih =>
    cases rest with
    | nil => exact scan_stringLiteral first
    | cons second others => exact isSeparator_commaBlank.between (scan_stringLiteral first) ih

theorem scan_textList (items : List String) :
    scan (textList items) =
      some (.mark '\x7b' :: (items.map Token.text).intersperse (.mark ',') ++ [.mark '\x7d']) := by
  have opening : IsSeparator "\x7b " [.mark '\x7b'] := by decide
  have closing : IsSeparator " \x7d" [.mark '\x7d'] := by decide
  cases items with
  | nil => decide
  | cons first rest =>
    exact closing.behind (opening.before (scan_joined_literals (first :: rest)))

end Pieces

end EntityGen.Java
