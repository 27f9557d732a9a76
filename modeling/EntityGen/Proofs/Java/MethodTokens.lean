/-
  Proofs/Java/MethodTokens.lean --- tokens of methods.

  Source: `Java/ClassText.lean`, the methods that compare and hash, and the scanner of
  `Proofs/Java/AnnotationReader.lean`.

  The methods that compare and hash entities, from the statements they are put together from
  to the tokens of their texts. Lines and blocks have the tokens of what is written in them,
  whatever the indentation.
-/
import EntityGen.Proofs.Java.AnnotationPieces
import EntityGen.Proofs.Java.Stretches

set_option autoImplicit false

namespace EntityGen.Java

open EntityGen.Blueprint (Method comparedFields equalsMethod hashCodeMethod)
open EntityGen.Layout (Fragment lineAt)
open EntityGen.Layout.Fragment (textsAt)
open EntityGen.Model (BusinessObject)

/-! ## Tokens of fragments -/

/-- Whatever the indentation, the fragments have these tokens, and no word goes on behind them. -/
structure HasTokens (parts : List Fragment) (tokens : List Token) : Prop where
  scanned : ∀ level, scan (textsAt .java level parts) = some tokens
  ends : ∀ level, EndsPlain (textsAt .java level parts)

section Fragments

variable {parts others : List Fragment} {text : String} {tokens more : List Token}

theorem scan_lineAt (scanned : scan text = some tokens) (level : Nat) :
    scan (lineAt .java level text) = some tokens := by
  have margin : scan (String.join (List.replicate level Layout.Indent.java.text) ++ text) =
      some tokens := by
    induction level with
    | zero => rwa [List.replicate_zero, String.join_nil, String.empty_append]
    | succ level ih =>
      rw [List.replicate_succ, String.join_cons, String.append_assoc]
      exact isSeparator_indent.before ih
  have ended := isSeparator_newline.behind margin
  rwa [List.append_nil] at ended

theorem endsPlain_lineAt (level : Nat) (text : String) : EndsPlain (lineAt .java level text) :=
  isSeparator_newline.endsPlain _

theorem endsPlain_append {first second : String} (early : EndsPlain first)
    (late : EndsPlain second) : EndsPlain (first ++ second) := by
  by_cases empty : second = ""
  · rwa [empty, String.append_empty]
  · exact late.append empty first

theorem HasTokens.append (here : HasTokens parts tokens) (there : HasTokens others more) :
    HasTokens (parts ++ others) (tokens ++ more) where
  scanned level := by
    rw [Layout.Fragment.textsAt_append]
    exact scan_append (Or.inl (here.ends level)) (here.scanned level) (there.scanned level)
  ends level := by
    rw [Layout.Fragment.textsAt_append]
    exact endsPlain_append (here.ends level) (there.ends level)

theorem hasTokens_line (scanned : scan text = some tokens) : HasTokens [.line text] tokens where
  scanned level := by
    rw [textsAt, Fragment.textAt, textsAt, String.append_empty]
    exact scan_lineAt scanned level
  ends level := by
    rw [textsAt, Fragment.textAt, textsAt, String.append_empty]
    exact endsPlain_lineAt level text

theorem hasTokens_cons_line (scanned : scan text = some tokens) (there : HasTokens parts more) :
    HasTokens (.line text :: parts) (tokens ++ more) :=
  (hasTokens_line scanned).append there

theorem HasTokens.indented (here : HasTokens parts tokens) :
    HasTokens [.indented parts] tokens where
  scanned level := by
    rw [textsAt, Fragment.textAt, textsAt, String.append_empty]
    exact here.scanned (level + 1)
  ends level := by
    rw [textsAt, Fragment.textAt, textsAt, String.append_empty]
    exact here.ends (level + 1)

/-- A block is its header, its statements one level deeper, and a closing brace. -/
theorem textsAt_block_eq (level : Nat) (header : String) (statements : List Fragment) :
    textsAt .java level [block header statements] =
      textsAt .java level [.line (header ++ " \x7b"), .indented statements, .line "\x7d"] := by
  simp [block, closingBrace, textsAt, Fragment.textAt, Layout.linesAt_singleton,
    String.append_assoc]

theorem HasTokens.block (scanned : scan text = some tokens) (here : HasTokens parts more) :
    HasTokens [block text parts] (tokens ++ [.mark '\x7b'] ++ (more ++ [.mark '\x7d'])) := by
  have opening : IsSeparator " \x7b" [.mark '\x7b'] := by decide
  have closing : IsSeparator "\x7d" [.mark '\x7d'] := by decide
  have parts := hasTokens_cons_line (opening.behind scanned)
    (here.indented.append (hasTokens_line closing.scanned))
  constructor
  · intro level
    rw [textsAt_block_eq]
    exact parts.scanned level
  · intro level
    rw [textsAt_block_eq]
    exact parts.ends level

end Fragments

/-! ## Tokens of bodies -/

/-- What compares a field. -/
def comparisonTokens (field : String) : List Token :=
  [.word "Objects.equals", .mark '(', .word (Naming.dotted "this" field), .mark ',',
    .word (Naming.dotted "other" field), .mark ')']

/-- What compares one field after another. -/
def comparisonsTokens : List String → List Token
  | [] => []
  | [last] => comparisonTokens last
  | first :: rest => comparisonTokens first ++ .mark '&' :: .mark '&' :: comparisonsTokens rest

/-- The beginning of a method that compares objects, up to the cast. -/
def guardTokens : List Token := [
  .word "if", .mark '(', .word "this", .mark '=', .mark '=', .word "obj", .mark ')', .mark '\x7b',
  .word "return", .word "true", .mark ';', .mark '\x7d',
  .word "if", .mark '(', .word "obj", .mark '=', .mark '=', .word "null", .mark '|', .mark '|',
  .word "getClass", .mark '(', .mark ')', .mark '!', .mark '=', .word "obj.getClass", .mark '(',
  .mark ')', .mark ')', .mark '\x7b', .word "return", .word "false", .mark ';', .mark '\x7d']

/-- The declaration of the other object. -/
def castTokens (simpleName : String) : List Token :=
  [.word simpleName, .word "other", .mark '=', .mark '(', .word simpleName, .mark ')', .word "obj",
    .mark ';']

section Bodies

variable {fields : List String}

theorem scan_comparison {field : String} (word : IsWord field) :
    scan (comparison "Objects" field) = some (comparisonTokens field) := by
  have text : comparison "Objects" field = "Objects.equals" ++ "(" ++ Naming.dotted "this" field ++
      ", " ++ Naming.dotted "other" field ++ ")" := by
    simp only [comparison, Naming.dotted, String.append_assoc]
    rfl
  have this := scan_word (isWord_constant (by decide : IsWord "this") word)
  have other := scan_word (isWord_constant (by decide : IsWord "other") word)
  have objects := isSeparator_open.between (scan_word (by decide : IsWord "Objects.equals")) this
  rw [text]
  exact isSeparator_close.behind (isSeparator_commaBlank.between objects other)

theorem comparisonsTokens_cons (first second : String) (others : List String) :
    comparisonsTokens (first :: second :: others) =
      comparisonTokens first ++ .mark '&' :: .mark '&' :: comparisonsTokens (second :: others) :=
  rfl

theorem hasTokens_continuedComparisons (nonempty : fields ≠ [])
    (words : ∀ field ∈ fields, IsWord field) :
    HasTokens (continuedComparisons (fields.map (comparison "Objects")))
      (Token.mark '&' :: Token.mark '&' :: comparisonsTokens fields ++ [Token.mark ';']) := by
  have lead : IsSeparator "&& " [.mark '&', .mark '&'] := by decide
  have last : IsSeparator ";" [.mark ';'] := by decide
  induction fields with
  | nil => exact absurd rfl nonempty
  | cons first rest ih =>
    have here := scan_comparison (words first List.mem_cons_self)
    cases rest with
    | nil => exact hasTokens_line (last.behind (lead.before here))
    | cons second others =>
      have later := ih (List.cons_ne_nil _ _) fun field mem =>
        words field (List.mem_cons_of_mem _ mem)
      have both : HasTokens (continuedComparisons ((first :: second :: others).map _)) _ :=
        hasTokens_cons_line (lead.before here) later
      rw [comparisonsTokens_cons]
      simpa only [List.cons_append, List.nil_append, List.append_assoc] using both

theorem hasTokens_returnComparisons (nonempty : fields ≠ [])
    (words : ∀ field ∈ fields, IsWord field) :
    HasTokens (returnComparisons (fields.map (comparison "Objects")))
      (Token.word "return" :: comparisonsTokens fields ++ [Token.mark ';']) := by
  have last : IsSeparator ";" [.mark ';'] := by decide
  have lead : scan "return " = some [.word "return"] := by decide
  cases fields with
  | nil => exact absurd rfl nonempty
  | cons first rest =>
    have here := scan_comparison (words first List.mem_cons_self)
    have returned := scan_append (Or.inl (by decide : EndsPlain "return ")) lead here
    cases rest with
    | nil =>
      exact hasTokens_line (last.behind returned)
    | cons second others =>
      have later := hasTokens_continuedComparisons (List.cons_ne_nil second others) fun field mem =>
        words field (List.mem_cons_of_mem _ mem)
      have both : HasTokens (returnComparisons ((first :: second :: others).map _)) _ :=
        hasTokens_cons_line returned later.indented.indented
      rw [comparisonsTokens_cons]
      simpa only [List.cons_append, List.nil_append, List.append_assoc] using both

theorem hasTokens_equalsGuards : HasTokens equalsGuards guardTokens := by
  have same : scan "if (this == obj)" = some [.word "if", .mark '(', .word "this", .mark '=',
      .mark '=', .word "obj", .mark ')'] := by decide
  have unlike : scan "if (obj == null || getClass() != obj.getClass())" = some [.word "if",
      .mark '(', .word "obj", .mark '=', .mark '=', .word "null", .mark '|', .mark '|',
      .word "getClass", .mark '(', .mark ')', .mark '!', .mark '=', .word "obj.getClass",
      .mark '(', .mark ')', .mark ')'] := by decide
  have yes : scan "return true;" = some [.word "return", .word "true", .mark ';'] := by decide
  have no : scan "return false;" = some [.word "return", .word "false", .mark ';'] := by decide
  exact (HasTokens.block same (hasTokens_line yes)).append (.block unlike (hasTokens_line no))

theorem scan_cast {simpleName : String} (word : IsWord simpleName) :
    scan s!"{simpleName} other = ({simpleName}) obj;" = some (castTokens simpleName) := by
  have middle : IsSeparator " other = (" [.word "other", .mark '=', .mark '('] := by decide
  have behind : IsSeparator ") obj;" [.mark ')', .word "obj", .mark ';'] := by decide
  exact behind.behind (middle.between (scan_word word) (scan_word word))

end Bodies

/-! ## Tokens of methods -/

section Methods

variable {names : Resolver} {simpleName : String} {object : BusinessObject}

/-- The head of a method, as far as the opening brace. -/
def signatureText (names : Resolver) (method : Method) : String :=
  s!"{visibilityText method.visibility} {names.answer (typeText method.result)} {method.name}(" ++
    Text.join ", " (method.parameters.map fun parameter => names.answer (parameterText parameter)) ++
    ")"

/-- A method with statements is a block. -/
theorem answer_bareMethod {method : Method} (concrete : method.isAbstract = false)
    (known : names.Knows (methodMentions method)) :
    names.answer (methodFragments simpleName (bareMethod method)) =
      [block (signatureText names method) (names.answer (bodyFragments simpleName method.body))] := by
  have result : names.Knows (typeMentions method.result) := known.right.left
  have parameters := known.right.right.left
  have body : names.Knows (bodyMentions method.body) := known.right.right.right
  have steps : methodFragments simpleName (bareMethod method) =
      (typeText method.result >>= fun result => method.parameters.mapM parameterText >>=
        fun parameters => bodyFragments simpleName method.body >>= fun statements =>
          pure [block (s!"{visibilityText method.visibility} {result} {method.name}(" ++
            Text.join ", " parameters ++ ")") statements]) := by
    have bare : (bareMethod method).isAbstract = false := concrete
    unfold methodFragments
    rw [bare]
    rfl
  rw [steps, (asks_typeText _).answer_bind result,
    (Asks.mapM asks_parameterText _).answer_bind parameters,
    (asks_bodyFragments _ _).answer_bind body, answer_mapM asks_parameterText parameters]
  rfl

/-- The text of the method that compares objects. -/
theorem answer_equalsMethod (known : names.Knows (methodMentions (equalsMethod object)))
    (objectType : names.answer (Resolver.resolve "java.lang.Object") = "Object")
    (objects : names.answer (Resolver.resolve objectsClass) = "Objects") :
    names.answer (methodFragments simpleName (bareMethod (equalsMethod object))) =
      [block "public boolean equals(Object obj)" (equalsGuards ++
        .line s!"{simpleName} other = ({simpleName}) obj;" ::
          returnComparisons ((comparedFields object).map (comparison "Objects")))] := by
  have mentions : bodyMentions (.equals (comparedFields object)) = [objectsClass] := by
    simp [bodyMentions, comparedFields]
  have body : names.answer (bodyFragments simpleName (.equals (comparedFields object))) =
      equalsGuards ++ .line s!"{simpleName} other = ({simpleName}) obj;" ::
        returnComparisons ((comparedFields object).map (comparison "Objects")) := by
    have asked : names.Knows [objectsClass] := mentions ▸ known.right.right.right
    have compared : (comparedFields object).isEmpty = false := by simp [comparedFields]
    rw [bodyFragments, equalsBody, compared, if_neg Bool.false_ne_true,
      (Asks.resolve objectsClass).answer_bind asked, objects]
    rfl
  have parameter : names.answer (parameterText ⟨"obj", .named "java.lang.Object"⟩) = "Object obj" := by
    have asked : names.Knows ["java.lang.Object"] := known.right.right.left
    have text := (Asks.resolve "java.lang.Object").answer_bind asked
      fun text => (pure (text ++ " " ++ "obj") : StateM Resolver String)
    rw [objectType] at text
    exact text
  have signature : signatureText names (equalsMethod object) = "public boolean equals(Object obj)" := by
    rw [signatureText, equalsMethod, List.map_singleton, parameter]
    rfl
  rw [answer_bareMethod rfl known, signature]
  exact congrArg (fun statements => [block _ statements]) body

/-- The text of the method that hashes an object. -/
theorem answer_hashCodeMethod (known : names.Knows (methodMentions (hashCodeMethod object)))
    (objects : names.answer (Resolver.resolve objectsClass) = "Objects") :
    names.answer (methodFragments simpleName (bareMethod (hashCodeMethod object))) =
      [block "public int hashCode()"
        [.line ("return Objects.hash(" ++ Text.join ", " (comparedFields object) ++ ");")]] := by
  have body : names.answer (bodyFragments simpleName (.hashCode (comparedFields object))) =
      [.line ("return Objects.hash(" ++ Text.join ", " (comparedFields object) ++ ");")] := by
    have asked : names.Knows [objectsClass] := known.right.right.right
    rw [bodyFragments, hashCodeBody, (Asks.resolve objectsClass).answer_bind asked, objects]
    rfl
  rw [answer_bareMethod rfl known]
  exact congrArg (fun statements => [block _ statements]) body

/-- The head of the method that compares objects. -/
def equalsHeadTokens : List Token :=
  [.word "public", .word "boolean", .word "equals", .mark '(', .word "Object", .word "obj",
    .mark ')']

/-- The tokens of the method that compares objects. -/
def equalsTokens (simpleName : String) (fields : List String) : List Token :=
  equalsHeadTokens ++ Token.mark '\x7b' :: guardTokens ++ castTokens simpleName ++
    Token.word "return" :: comparisonsTokens fields ++ [Token.mark ';', Token.mark '\x7d']

/-- The head of the method that hashes an object, and what comes before the fields. -/
def hashCodeHeadTokens : List Token :=
  [.word "public", .word "int", .word "hashCode", .mark '(', .mark ')', .mark '\x7b',
    .word "return", .word "Objects.hash", .mark '(']

/-- The tokens of the method that hashes an object. -/
def hashCodeTokens (fields : List String) : List Token :=
  hashCodeHeadTokens ++ (fields.map Token.word).intersperse (.mark ',') ++
    [Token.mark ')', Token.mark ';', Token.mark '\x7d']

theorem comparedFields_ne_nil (object : BusinessObject) : comparedFields object ≠ [] := by
  simp [comparedFields]

theorem scan_joined_words {words : List String} (each : ∀ word ∈ words, IsWord word) :
    scan (Text.join ", " words) = some ((words.map Token.word).intersperse (.mark ',')) := by
  induction words with
  | nil => rfl
  | cons first rest ih =>
    have here := scan_word (each first List.mem_cons_self)
    cases rest with
    | nil => exact here
    | cons second others =>
      exact isSeparator_commaBlank.between here (ih fun word mem =>
        each word (List.mem_cons_of_mem _ mem))

theorem hasTokens_equals (words : ∀ field ∈ comparedFields object, IsWord field)
    (own : IsWord simpleName) :
    HasTokens [block "public boolean equals(Object obj)" (equalsGuards ++
        .line s!"{simpleName} other = ({simpleName}) obj;" ::
          returnComparisons ((comparedFields object).map (comparison "Objects")))]
      (equalsTokens simpleName (comparedFields object)) := by
  have signature : scan "public boolean equals(Object obj)" = some equalsHeadTokens := by decide
  have statements := hasTokens_equalsGuards.append (hasTokens_cons_line (scan_cast own)
    (hasTokens_returnComparisons (comparedFields_ne_nil object) words))
  have whole := HasTokens.block signature statements
  simpa [equalsTokens] using whole

theorem hasTokens_hashCode (words : ∀ field ∈ comparedFields object, IsWord field) :
    HasTokens [block "public int hashCode()"
        [.line ("return Objects.hash(" ++ Text.join ", " (comparedFields object) ++ ");")]]
      (hashCodeTokens (comparedFields object)) := by
  have signature : scan "public int hashCode()" = some [.word "public", .word "int",
      .word "hashCode", .mark '(', .mark ')'] := by decide
  have lead : scan "return Objects.hash(" = some [.word "return", .word "Objects.hash",
      .mark '('] := by decide
  have last : IsSeparator ");" [.mark ')', .mark ';'] := by decide
  have statement := last.behind
    (scan_append (Or.inl (by decide : EndsPlain "return Objects.hash(")) lead
      (scan_joined_words words))
  have whole := HasTokens.block signature (hasTokens_line statement)
  simpa [hashCodeTokens, hashCodeHeadTokens] using whole

end Methods

end EntityGen.Java
