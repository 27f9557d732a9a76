/-
  Proofs/Java/AnnotationTokens.lean --- what tokens are read as.

  Source: the reader of `Proofs/Java/AnnotationReader.lean`.

  Which tokens the reader takes for which tag, value or list, whatever stands behind them.
  There is one lemma for each construct of the syntax.

  Each lemma is stated for any tokens behind, because that is the form in which constructs
  are put together.
-/
import EntityGen.Proofs.Java.AnnotationReader

set_option autoImplicit false

namespace EntityGen.Java

open EntityGen.Blueprint (Tag TagKind TagValue)

variable {denotes : String → String} {kind : TagKind} {tokens more : List Token}

/-! ## Readings -/

/-- The tokens are the annotation of a tag. An opening parenthesis behind them would belong to it.
-/
structure ReadsTag (denotes : String → String) (tokens : List Token) (tag : Tag) : Prop where
  begins : ∃ more, tokens = .mark '@' :: more
  reads : ∀ budget rest, 2 * tokens.length ≤ budget → (∀ more, rest ≠ .mark '(' :: more) →
    readTag denotes budget (tokens ++ rest) = some (tag, rest)

/-- The tokens are annotations with commas between them. -/
structure ReadsTags (denotes : String → String) (tokens : List Token) (tags : List Tag) : Prop where
  begins : ∃ more, tokens = .mark '@' :: more
  reads : ∀ budget rest, 2 * tokens.length + 1 ≤ budget →
    readTags denotes budget (tokens ++ .mark '\x7d' :: rest) = some (tags, rest)

/-- The tokens begin like a value, and not like the name of one. -/
def BeginsValue : List Token → Prop
  | [.word _] | .text _ :: _ | .mark '\x7b' :: _ => True
  | _ => False

/-- The tokens are a value. -/
structure ReadsValue (denotes : String → String) (kind : TagKind) (tokens : List Token)
    (value : TagValue) : Prop where
  begins : BeginsValue tokens
  reads : ∀ budget rest, 2 * tokens.length ≤ budget →
    readValue denotes budget kind (tokens ++ rest) = some (value, rest)

/-- The tokens are values with names and with commas between them. -/
structure ReadsNamed (denotes : String → String) (kind : TagKind) (tokens : List Token)
    (attributes : List (String × TagValue)) : Prop where
  begins : ∃ name more, tokens = .word name :: .mark '=' :: more
  reads : ∀ budget rest, 2 * tokens.length + 1 ≤ budget →
    readNamed denotes budget kind (tokens ++ .mark ')' :: rest) = some (attributes, rest)

/-! ## Values -/

theorem ReadsValue.text (text : String) :
    ReadsValue denotes kind [.text text] (.text text) where
  begins := trivial
  reads := by
    intro budget rest enough
    simp only [List.length_cons, List.length_nil] at enough
    obtain ⟨budget, rfl⟩ := Nat.exists_eq_add_of_le' (show 1 ≤ budget by omega)
    rfl

theorem ReadsValue.word {word : String} {value : TagValue}
    (meaning : wordValue? denotes kind word = some value) :
    ReadsValue denotes kind [.word word] value where
  begins := trivial
  reads := by
    intro budget rest enough
    simp only [List.length_cons, List.length_nil] at enough
    obtain ⟨budget, rfl⟩ := Nat.exists_eq_add_of_le' (show 1 ≤ budget by omega)
    simp [readValue, meaning]

theorem ReadsValue.tags {tags : List Tag} (parsed : ReadsTags denotes tokens tags) :
    ReadsValue denotes kind (.mark '\x7b' :: tokens ++ [.mark '\x7d']) (.tags tags) where
  begins := trivial
  reads := by
    obtain ⟨⟨more, rfl⟩, reads⟩ := parsed
    intro budget rest enough
    simp only [List.length_append, List.length_cons, List.length_nil] at enough
    obtain ⟨budget, rfl⟩ := Nat.exists_eq_add_of_le' (show 1 ≤ budget by omega)
    have inside := reads budget rest (by simp only [List.length_cons]; omega)
    simp only [List.cons_append] at inside
    simp [readValue, inside]

theorem readTexts_intersperse (first : String) (items : List String) (rest : List Token) :
    readTexts (((first :: items).map Token.text).intersperse (.mark ',') ++ .mark '\x7d' :: rest) =
      some (first :: items, rest) := by
  induction items generalizing first with
  | nil => rfl
  | cons second others ih =>
    have later := ih second
    simp only [List.map_cons] at later ⊢
    simp [readTexts, later]

theorem ReadsValue.texts (items : List String) :
    ReadsValue denotes kind
      (.mark '\x7b' :: (items.map Token.text).intersperse (.mark ',') ++ [.mark '\x7d'])
      (.texts items) where
  begins := trivial
  reads := by
    intro budget rest enough
    simp only [List.length_append, List.length_cons, List.length_nil] at enough
    obtain ⟨budget, rfl⟩ := Nat.exists_eq_add_of_le' (show 1 ≤ budget by omega)
    cases items with
    | nil => rfl
    | cons first others =>
      have inside := readTexts_intersperse first others rest
      cases others with
      | nil => rfl
      | cons second others =>
        simp only [List.map_cons] at inside ⊢
        simp at inside ⊢
        simp [readValue, inside]

/-! ## Attributes -/

theorem ReadsNamed.single {name : String} {value : TagValue} (identifier : isIdentifier name = true)
    (parsed : ReadsValue denotes kind tokens value) :
    ReadsNamed denotes kind (.word name :: .mark '=' :: tokens) [(name, value)] where
  begins := ⟨name, tokens, rfl⟩
  reads := by
    intro budget rest enough
    simp only [List.length_cons] at enough
    obtain ⟨budget, rfl⟩ := Nat.exists_eq_add_of_le' (show 1 ≤ budget by omega)
    have inside := parsed.reads budget (.mark ')' :: rest) (by omega)
    simp [readNamed, identifier, inside]

theorem ReadsNamed.cons {name : String} {value : TagValue} {others : List (String × TagValue)}
    (identifier : isIdentifier name = true) (parsed : ReadsValue denotes kind tokens value)
    (later : ReadsNamed denotes kind more others) :
    ReadsNamed denotes kind (.word name :: .mark '=' :: tokens ++ .mark ',' :: more)
      ((name, value) :: others) where
  begins := ⟨name, _, rfl⟩
  reads := by
    intro budget rest enough
    simp only [List.length_append, List.length_cons] at enough
    obtain ⟨budget, rfl⟩ := Nat.exists_eq_add_of_le' (show 1 ≤ budget by omega)
    have inside := parsed.reads budget (.mark ',' :: (more ++ .mark ')' :: rest)) (by omega)
    have behind := later.reads budget rest (by omega)
    simp [readNamed, identifier, inside, behind]

/-! ## Annotations -/

theorem ReadsTag.bare {word : String} (named : kindOf? (denotes word) = some kind) :
    ReadsTag denotes [.mark '@', .word word] (.mk kind []) where
  begins := ⟨_, rfl⟩
  reads := by
    intro budget rest enough closed
    simp only [List.length_cons, List.length_nil] at enough
    obtain ⟨budget, rfl⟩ := Nat.exists_eq_add_of_le' (show 1 ≤ budget by omega)
    rw [List.cons_append, List.singleton_append, readTag, named]
    · rfl
    · exact closed

theorem ReadsTag.named {word : String} {attributes : List (String × TagValue)}
    (named : kindOf? (denotes word) = some kind)
    (parsed : ReadsNamed denotes kind tokens attributes) :
    ReadsTag denotes (.mark '@' :: .word word :: .mark '(' :: tokens ++ [.mark ')'])
      (.mk kind attributes) where
  begins := ⟨_, rfl⟩
  reads := by
    obtain ⟨⟨name, more, rfl⟩, reads⟩ := parsed
    intro budget rest enough _
    simp only [List.length_append, List.length_cons, List.length_nil] at enough
    obtain ⟨budget, rfl⟩ := Nat.exists_eq_add_of_le' (show 2 ≤ budget by omega)
    have inside := reads budget rest (by simp only [List.length_cons]; omega)
    simp only [List.cons_append] at inside
    simp [readTag, readElements, named, inside]

theorem readElements_of_beginsValue (begins : BeginsValue tokens) (budget : Nat)
    (rest : List Token) {value : TagValue}
    (read : readValue denotes budget kind (tokens ++ .mark ')' :: rest) =
      some (value, .mark ')' :: rest)) :
    readElements denotes (budget + 1) kind (tokens ++ .mark ')' :: rest) =
      some ([(Blueprint.valueAttribute, value)], rest) := by
  unfold BeginsValue at begins
  split at begins
  · simp [readElements] at read ⊢
    simp [read]
  · simp [readElements] at read ⊢
    simp [read]
  · simp [readElements] at read ⊢
    simp [read]
  · exact begins.elim

/-- A sole value stands for the one with the name that may be left out. -/
theorem ReadsTag.sole {word : String} {value : TagValue}
    (named : kindOf? (denotes word) = some kind) (parsed : ReadsValue denotes kind tokens value) :
    ReadsTag denotes (.mark '@' :: .word word :: .mark '(' :: tokens ++ [.mark ')'])
      (.mk kind [(Blueprint.valueAttribute, value)]) where
  begins := ⟨_, rfl⟩
  reads := by
    intro budget rest enough _
    simp only [List.length_append, List.length_cons, List.length_nil] at enough
    obtain ⟨budget, rfl⟩ := Nat.exists_eq_add_of_le' (show 2 ≤ budget by omega)
    have inside := parsed.reads budget (.mark ')' :: rest) (by omega)
    have elements := readElements_of_beginsValue parsed.begins budget rest inside
    simp [readTag, named, elements]

theorem ReadsTags.single {tag : Tag} (parsed : ReadsTag denotes tokens tag) :
    ReadsTags denotes tokens [tag] where
  begins := parsed.begins
  reads := by
    intro budget rest enough
    obtain ⟨budget, rfl⟩ := Nat.exists_eq_add_of_le' (show 1 ≤ budget by omega)
    have here := parsed.reads budget (.mark '\x7d' :: rest) (by omega) (by simp)
    simp [readTags, here]

theorem ReadsTags.cons {tag : Tag} {others : List Tag} (parsed : ReadsTag denotes tokens tag)
    (later : ReadsTags denotes more others) :
    ReadsTags denotes (tokens ++ .mark ',' :: more) (tag :: others) where
  begins := by
    obtain ⟨inside, rfl⟩ := parsed.begins
    exact ⟨_, rfl⟩
  reads := by
    intro budget rest enough
    simp only [List.length_append, List.length_cons] at enough
    obtain ⟨budget, rfl⟩ := Nat.exists_eq_add_of_le' (show 1 ≤ budget by omega)
    have here := parsed.reads budget (.mark ',' :: (more ++ .mark '\x7d' :: rest)) (by omega)
      (by simp)
    have behind := later.reads budget rest (by omega)
    simp [readTags, here, behind]

/-- A text is read as the tag that its tokens are. -/
theorem readBack_of_readsTag {text : String} {tag : Tag} (scanned : scan text = some tokens)
    (parsed : ReadsTag denotes tokens tag) : readBack denotes text = some tag := by
  have read := parsed.reads (2 * tokens.length) [] (Nat.le_refl _) (by simp)
  rw [List.append_nil] at read
  simp [readBack, scanned, read]

end EntityGen.Java
