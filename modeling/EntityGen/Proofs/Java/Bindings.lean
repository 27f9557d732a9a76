/-
  Proofs/Java/Bindings.lean --- what names in methods denote.

  Source: the scoping rules of Java for local variables, fields, methods and types.

  The rules are stated as far as generated methods use the language. A name between
  parentheses or before another name is a type, a name behind a type declares a variable,
  and a name before an opening parenthesis is a method. Any other name is a variable if one
  is declared before it, else a field of the class; before a dot it may also be a type, but
  only if there is neither a variable nor a field.
-/
import EntityGen.Proofs.Files.Paths
import EntityGen.Proofs.Java.AnnotationReader
import EntityGen.Proofs.Java.Identifier

set_option autoImplicit false

namespace EntityGen.Java

/-- What a name denotes. -/
inductive Binding where
  | method
  /-- the type of this dotted name -/
  | type (name : String)
  | parameter
  | localVariable
  /-- a field of the class -/
  | field
  /-- nothing that the class declares -/
  | unknown
  deriving DecidableEq, Repr, Inhabited

/-- A name as it stands in a text, and what it denotes there. -/
abbrev Reading := String × Binding

/-- A variable that is declared in a method. -/
structure Variable where
  name : String
  /-- The dotted name of its type. -/
  type : String
  /-- Whether it is a parameter or a local variable. -/
  binding : Binding
  deriving DecidableEq, Repr, Inhabited

/-- The class around a method. -/
structure Scope where
  /-- The dotted name. -/
  className : String
  /-- The names of the fields. -/
  fields : List String
  /-- The dotted name of the type that a name denotes where it stands for a type. -/
  denotes : String → String

/-! ## Names on their own -/

/-- The name that a token is. -/
def nameOf? : Option Token → Option String
  | some (.word word) => if isKeyword word then none else some word
  | _ => none

/-- A name with this before it and these tokens behind it stands between parentheses, and a name comes
next. -/
def isCast (before : Option Token) : List Token → Bool
  | .mark ')' :: rest => before == some (.mark '(') && (nameOf? rest.head?).isSome
  | _ => false

namespace Scope

variable (scope : Scope) (known : List Variable)

/-- The variable of this name that was declared last. -/
def lookup (name : String) : Option Variable :=
  known.find? fun declared => declared.name == name

/-- What a name denotes that stands for a value. -/
def value (name : String) : Binding :=
  match lookup known name with
  | some declared => declared.binding
  | none => if name ∈ scope.fields then .field else .unknown

/-- What a name before a dot denotes. -/
def qualifier (name : String) : Binding :=
  match scope.value known name with
  | .unknown => .type (scope.denotes name)
  | binding => binding

/-- What a name behind a dot denotes, given the type of what stands before the dot if it is known. -/
def selected (owner : Option String) (called : Bool) (name : String) : Binding :=
  if called then .method
  else if owner = some scope.className ∧ name ∈ scope.fields then .field
  else .unknown

/-- The names in a word that stands neither for a type nor for a declaration, given whether an opening
parenthesis comes next. -/
def word (called : Bool) (word : String) : List Reading :=
  match Text.split '.' word with
  | [name] => [(name, if called then .method else scope.value known name)]
  | [owner, name] =>
    if owner = "this" then [(name, scope.selected (some scope.className) called name)]
    else
      [(owner, scope.qualifier known owner),
        (name, scope.selected ((lookup known owner).map Variable.type) called name)]
  | parts => parts.map fun name => (name, .unknown)

/-- The variable that a name declares behind its type, given the tokens behind the name. A parameter
is separated from the next one or ends the list. -/
def declared (type name : String) (behind : List Token) : Variable where
  name := name
  type := scope.denotes type
  binding :=
    if behind.head? = some (.mark ',') ∨ behind.head? = some (.mark ')') then .parameter
    else .localVariable

end Scope

/-! ## Names in a text -/

/-- The names among tokens with what they denote, given the variables that are declared so far and the
token before. A variable stays declared up to the last token. -/
def readingsFrom (scope : Scope) : List Variable → Option Token → List Token → List Reading
  | _, _, [] => []
  | known, before, .word word :: rest =>
    let here := some (Token.word word)
    if isKeyword word then readingsFrom scope known here rest
    else if (nameOf? rest.head?).isSome || isCast before rest then
      (word, .type (scope.denotes word)) :: readingsFrom scope known here rest
    else
      match nameOf? before with
      | some type =>
        let fresh := scope.declared type word rest
        (word, fresh.binding) :: readingsFrom scope (fresh :: known) here rest
      | none =>
        scope.word known (rest.head? == some (.mark '(')) word ++ readingsFrom scope known here rest
  | known, _, token :: rest => readingsFrom scope known (some token) rest

/-- The names in the text of a method with what they denote. Numerals name nothing. -/
def readings (scope : Scope) (text : String) : Option (List Reading) :=
  (scan text).map fun tokens =>
    (readingsFrom scope [] none tokens).filter fun reading => isIdentifier reading.1

theorem isIdentifier_of_readings {scope : Scope} {text : String} {found : List Reading}
    (read : readings scope text = some found) : ∀ reading ∈ found, isIdentifier reading.1 = true := by
  obtain ⟨tokens, -, rfl⟩ := Option.map_eq_some_iff.1 read
  exact fun reading mem => (List.mem_filter.1 mem).2

/-! ## Words -/

/-- Reserved words have no dots. -/
theorem isKeyword_of_mem_dot {word : String} (dotted : '.' ∈ word.toList) :
    isKeyword word = false := by
  have plain : ∀ keyword ∈ keywords, '.' ∉ keyword.toList := by decide
  rw [isKeyword, List.contains_eq_mem, decide_eq_false_iff_not]
  exact fun listed => plain word listed dotted

theorem isKeyword_of_isIdentifier {word : String} (identifier : isIdentifier word = true) :
    isKeyword word = false := by
  obtain ⟨-, -, -, -, -, new⟩ := isIdentifier_iff.1 identifier
  rw [isKeyword, List.contains_eq_mem, decide_eq_false_iff_not]
  exact new

theorem not_mem_dot_of_isIdentifier {word : String} (identifier : isIdentifier word = true) :
    '.' ∉ word.toList := by
  intro dotted
  have part := hasIdentifierParts_of_isIdentifier identifier '.' dotted
  exact absurd part (by decide)

theorem split_dotted {owner name : String} (plain : '.' ∉ owner.toList)
    (plain' : '.' ∉ name.toList) : Text.split '.' (Naming.dotted owner name) = [owner, name] := by
  rw [Text.split, Naming.toList_dotted, Text.piecesAt_append_mark, Text.piecesAt_of_not_mem plain,
    Text.piecesAt_of_not_mem plain', List.singleton_append, List.map_cons, List.map_singleton,
    String.ofList_toList, String.ofList_toList]

namespace Scope

variable {scope : Scope} {known : List Variable} {owner name : String}

theorem word_of_not_mem (plain : '.' ∉ name.toList) (called : Bool) :
    scope.word known called name =
      [(name, if called then .method else scope.value known name)] := by
  rw [word, Text.split_of_not_mem plain]

theorem word_this (plain : '.' ∉ name.toList) (called : Bool) :
    scope.word known called (Naming.dotted "this" name) =
      [(name, scope.selected (some scope.className) called name)] := by
  rw [word, split_dotted (by decide) plain]
  exact if_pos rfl

theorem word_dotted (plain : '.' ∉ owner.toList) (plain' : '.' ∉ name.toList)
    (other : owner ≠ "this") (called : Bool) :
    scope.word known called (Naming.dotted owner name) =
      [(owner, scope.qualifier known owner),
        (name, scope.selected ((lookup known owner).map Variable.type) called name)] := by
  rw [word, split_dotted plain plain']
  exact if_neg other

end Scope

/-! ## Steps -/

section Steps

variable {scope : Scope} {known : List Variable} {before : Option Token} {word type : String}
  {rest : List Token}

theorem readingsFrom_mark (c : Char) :
    readingsFrom scope known before (.mark c :: rest) =
      readingsFrom scope known (some (.mark c)) rest :=
  rfl

theorem readingsFrom_keyword (reserved : isKeyword word = true) :
    readingsFrom scope known before (.word word :: rest) =
      readingsFrom scope known (some (.word word)) rest := by
  rw [readingsFrom]
  exact if_pos reserved

theorem readingsFrom_type (free : isKeyword word = false)
    (typed : ((nameOf? rest.head?).isSome || isCast before rest) = true) :
    readingsFrom scope known before (.word word :: rest) =
      (word, .type (scope.denotes word)) :: readingsFrom scope known (some (.word word)) rest := by
  rw [readingsFrom, free, if_neg Bool.false_ne_true, if_pos typed]

/-- A variable is known behind its declaration. -/
theorem readingsFrom_declaration (free : isKeyword word = false)
    (untyped : ((nameOf? rest.head?).isSome || isCast before rest) = false)
    (typed : nameOf? before = some type) :
    readingsFrom scope known before (.word word :: rest) =
      (word, (scope.declared type word rest).binding) ::
        readingsFrom scope (scope.declared type word rest :: known) (some (.word word)) rest := by
  rw [readingsFrom, free, if_neg Bool.false_ne_true, untyped, if_neg Bool.false_ne_true, typed]

theorem readingsFrom_word {called : Bool} {found : List Reading} (free : isKeyword word = false)
    (untyped : ((nameOf? rest.head?).isSome || isCast before rest) = false)
    (plain : nameOf? before = none) (names : scope.word known called word = found)
    (next : (rest.head? == some (.mark '(')) = called) :
    readingsFrom scope known before (.word word :: rest) =
      found ++ readingsFrom scope known (some (.word word)) rest := by
  rw [readingsFrom, free, if_neg Bool.false_ne_true, untyped, if_neg Bool.false_ne_true, plain]
  simp only [next, names]

end Steps

end EntityGen.Java
