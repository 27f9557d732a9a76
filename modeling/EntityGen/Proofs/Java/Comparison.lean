/-
  Proofs/Java/Comparison.lean --- comparing and hashing.

  Source: the specification, section 4.2: both methods cover all declared fields and
  `persistenceId`, and not the version.

  Entities are compared and hashed by the same fields: those of the object in their order,
  and the one that identifies an entity. The comparison is one statement, whether it takes
  one line or several.

  The texts that are to be written are spelled out here, and the writer's own pieces are
  shown to be these.
-/
import EntityGen.Proofs.Java.Bodies

set_option autoImplicit false

namespace EntityGen

namespace Text

/-- A character that stands neither in the texts nor between them is not in what they make up. -/
theorem not_mem_join {c : Char} {separator : String} {items : List String}
    (between : c ∉ separator.toList) (each : ∀ item ∈ items, c ∉ item.toList) :
    c ∉ (join separator items).toList := by
  induction items with
  | nil => exact List.not_mem_nil
  | cons first rest ih =>
    have here := each first List.mem_cons_self
    have there := ih fun item mem => each item (List.mem_cons_of_mem first mem)
    cases rest with
    | nil => exact here
    | cons second others =>
      rw [join, String.toList_append, String.toList_append, List.mem_append, List.mem_append]
      · exact not_or.2 ⟨not_or.2 ⟨here, between⟩, there⟩
      · exact List.cons_ne_nil second others

end Text

namespace Java

open EntityGen.Blueprint (ClassSpec Method Variant comparedFields entityClass entityMethods
  equalsMethod hashCodeMethod persistenceId persistenceVersion)
open EntityGen.Layout (Indent lineAt)
open EntityGen.Layout.Fragment (textAt textsAt)
open EntityGen.Lint.DuplicateField (accessedFields accessorNames disjoint_accessorNames
  names_entityMethods)
open EntityGen.Model (BusinessObject Field)

variable {indent : Indent} {level : Nat}

/-! ## The statement that compares -/

/-- What a line at a level begins with. -/
def marginAt (indent : Indent) (level : Nat) : String :=
  String.join (List.replicate level indent.text)

/-- Where a conjunction goes on in another line at a level. -/
def conjunctionBreak (indent : Indent) (level : Nat) : String :=
  "\n" ++ marginAt indent level ++ "&& "

/-- The call that compares both objects by a field. -/
def comparisonText (objects field : String) : String :=
  objects ++ ".equals(this." ++ field ++ ", other." ++ field ++ ")"

/-- The statement that returns whether both objects agree in all fields: one comparison for each,
all but the first on lines of their own two levels deeper. -/
def conjunctionText (indent : Indent) (level : Nat) (objects : String) (fields : List String) :
    String :=
  marginAt indent level ++ "return " ++
    Text.join (conjunctionBreak indent (level + 2)) (fields.map (comparisonText objects)) ++ ";\n"

/-- The statements that need no field: the object is equal to itself, and to none of another class. -/
def guardsText (indent : Indent) (level : Nat) : String :=
  lineAt indent level "if (this == obj) \x7b" ++ lineAt indent (level + 1) "return true;" ++
    lineAt indent level "\x7d" ++
    lineAt indent level "if (obj == null || getClass() != obj.getClass()) \x7b" ++
    lineAt indent (level + 1) "return false;" ++ lineAt indent level "\x7d"

/-- The statements that compare: the guards, the declaration of the other object, and one
conjunction. -/
def comparingText (indent : Indent) (level : Nat) (objects simpleName : String)
    (fields : List String) : String :=
  guardsText indent level ++
    lineAt indent level (simpleName ++ " other = (" ++ simpleName ++ ") obj;") ++
    conjunctionText indent level objects fields

/-- The statement that hashes. -/
def hashingText (indent : Indent) (level : Nat) (objects : String) (fields : List String) :
    String :=
  lineAt indent level ("return " ++ objects ++ ".hash(" ++ Text.join ", " fields ++ ");")

theorem lineAt_eq (text : String) :
    lineAt indent level text = marginAt indent level ++ text ++ "\n" :=
  rfl

theorem textsAt_equalsGuards : textsAt indent level equalsGuards = guardsText indent level := by
  have same : "if (this == obj)" ++ " \x7b" = "if (this == obj) \x7b" := by decide
  have other : "if (obj == null || getClass() != obj.getClass())" ++ " \x7b" =
      "if (obj == null || getClass() != obj.getClass()) \x7b" := by decide
  rw [equalsGuards, block, block, closingBrace, same, other, guardsText]
  simp only [textsAt, textAt, Option.toList_some, Layout.linesAt_singleton, String.append_empty,
    String.append_assoc]

theorem comparison_eq_comparisonText (objects : String) :
    comparison objects = comparisonText objects :=
  rfl

theorem join_cons_cons (separator first second : String) (others : List String) :
    Text.join separator (first :: second :: others) =
      first ++ separator ++ Text.join separator (second :: others) :=
  rfl

/-- The lines that go on with a conjunction, up to the semicolon. -/
theorem textsAt_continuedComparisons (first : String) (rest : List String) :
    textsAt indent level (continuedComparisons (first :: rest)) =
      marginAt indent level ++ "&& " ++
        Text.join (conjunctionBreak indent level) (first :: rest) ++ ";\n" := by
  induction rest generalizing first with
  | nil =>
    rw [continuedComparisons, textsAt, textAt, textsAt, String.append_empty, lineAt_eq, Text.join]
    simp only [String.append_assoc]
    rfl
  | cons second others ih =>
    rw [continuedComparisons, textsAt, textAt, ih, lineAt_eq, join_cons_cons, conjunctionBreak]
    · simp only [String.append_assoc]
    · exact List.cons_ne_nil second others

theorem textsAt_returnComparisons (first : String) (rest : List String) :
    textsAt indent level (returnComparisons (first :: rest)) =
      marginAt indent level ++ "return " ++
        Text.join (conjunctionBreak indent (level + 2)) (first :: rest) ++ ";\n" := by
  cases rest with
  | nil =>
    rw [returnComparisons, textsAt, textAt, textsAt, String.append_empty, lineAt_eq, Text.join]
    simp only [String.append_assoc]
    rfl
  | cons second others =>
    have deeper : textsAt indent level [.indented [.indented (continuedComparisons
        (second :: others))]] =
          textsAt indent (level + 2) (continuedComparisons (second :: others)) := by
      simp only [textsAt, textAt, String.append_empty]
    rw [returnComparisons, textsAt, textAt, deeper, textsAt_continuedComparisons, lineAt_eq,
      join_cons_cons, conjunctionBreak]
    · simp only [String.append_assoc]
      rfl
    · exact List.cons_ne_nil second others

theorem not_mem_marginAt (indent : Indent) (level : Nat) :
    ';' ∉ (marginAt indent level).toList := by
  intro mem
  rcases Layout.blank_margin ';' mem with blank | blank
  · exact absurd blank (by decide)
  · exact absurd blank (by decide)

theorem not_mem_comparisonText {objects field : String} (objectsFree : ';' ∉ objects.toList)
    (fieldFree : ';' ∉ field.toList) : ';' ∉ (comparisonText objects field).toList := by
  have between : ';' ∉ ".equals(this.".toList ∧ ';' ∉ ", other.".toList ∧ ';' ∉ ")".toList := by
    decide
  unfold comparisonText
  simp only [String.toList_append, List.mem_append, not_or]
  exact ⟨⟨⟨⟨⟨objectsFree, between.1⟩, fieldFree⟩, between.2.1⟩, fieldFree⟩, between.2.2⟩

/-- The conjunction is one statement: its only semicolon ends it. -/
theorem count_conjunctionText {objects : String} {fields : List String}
    (objectsFree : ';' ∉ objects.toList) (fieldsFree : ∀ field ∈ fields, ';' ∉ field.toList)
    (indent : Indent) (level : Nat) :
    (conjunctionText indent level objects fields).toList.count ';' = 1 := by
  have start : ';' ∉ (marginAt indent level ++ "return ").toList := by
    rw [String.toList_append, List.mem_append]
    exact not_or.2 ⟨not_mem_marginAt indent level, by decide⟩
  have between : ';' ∉ (conjunctionBreak indent (level + 2)).toList := by
    rw [conjunctionBreak, String.toList_append, String.toList_append, List.mem_append,
      List.mem_append]
    exact not_or.2 ⟨not_or.2 ⟨by decide, not_mem_marginAt indent (level + 2)⟩, by decide⟩
  have joined : ';' ∉ (Text.join (conjunctionBreak indent (level + 2))
      (fields.map (comparisonText objects))).toList :=
    Text.not_mem_join between <| List.forall_mem_map.2 fun field mem =>
      not_mem_comparisonText objectsFree (fieldsFree field mem)
  rw [conjunctionText, String.toList_append, String.toList_append, List.count_append,
    List.count_append, List.count_eq_zero.2 start, List.count_eq_zero.2 joined]
  rfl

/-! ## The bodies -/

/-- The class of `equals` and `hash` is written by its simple name or by its dotted one. -/
theorem answer_objectsClass (names : Resolver) :
    names.answer (Resolver.resolve objectsClass) ∈ ["Objects", "java.util.Objects"] := by
  have simple : Naming.simpleNameOf objectsClass = "Objects" := by decide
  have importable : Resolver.isImportable objectsClass = true := by decide
  change (Resolver.resolve objectsClass names).1 ∈ _
  unfold Resolver.resolve
  rw [importable, if_pos rfl, simple]
  dsimp only
  split
  · split
    · exact List.mem_cons_self
    · exact List.mem_cons_of_mem _ List.mem_cons_self
  · exact List.mem_cons_self

/-- What compares by fields is, behind the guards and the cast, one conjunction of all of them. -/
theorem textsAt_equalsBody (names : Resolver) (simpleName : String) {fields : List String}
    (nonempty : fields ≠ []) :
    textsAt indent level (names.answer (equalsBody simpleName fields)) =
      comparingText indent level (names.answer (Resolver.resolve objectsClass)) simpleName
        fields := by
  cases fields with
  | nil => exact absurd rfl nonempty
  | cons first rest =>
    have body : names.answer (equalsBody simpleName (first :: rest)) = equalsGuards ++
        .line s!"{simpleName} other = ({simpleName}) obj;" ::
          returnComparisons ((first :: rest).map
            (comparison (names.answer (Resolver.resolve objectsClass)))) := rfl
    rw [body, Layout.Fragment.textsAt_append, textsAt_equalsGuards, textsAt, textAt,
      comparison_eq_comparisonText, List.map_cons, textsAt_returnComparisons, comparingText,
      conjunctionText, List.map_cons]
    exact String.append_assoc.symm

theorem textsAt_hashCodeBody (names : Resolver) (fields : List String) :
    textsAt indent level (names.answer (hashCodeBody fields)) =
      hashingText indent level (names.answer (Resolver.resolve objectsClass)) fields := by
  have body : names.answer (hashCodeBody fields) = [.line (s!"return {names.answer
      (Resolver.resolve objectsClass)}.hash(" ++ Text.join ", " fields ++ ");")] := rfl
  rw [body, textsAt, textAt, textsAt, String.append_empty, hashingText]
  rfl

/-- A method with statements is its head, its statements one level deeper, and a closing brace. -/
theorem methodText_eq {spec : ClassSpec} {method : Method} (mem : method ∈ spec.methods)
    (concrete : method.isAbstract = false) :
    methodText spec method =
      lineAt .java 1 (signatureText (settled spec) method ++ " \x7b") ++
        textsAt .java 2 ((settled spec).answer (bodyFragments spec.simpleName method.body)) ++
        lineAt .java 1 "\x7d" := by
  have known := (knows_settled spec).mono (methodMentions_subset_classMentions mem)
  rw [methodText, answer_bareMethod concrete known, textsAt_block_eq]
  simp only [textsAt, textAt, String.append_empty, String.append_assoc]

/-! ## The methods of an entity -/

/-- No accessor stands before the methods that compare and hash under their names. -/
theorem method?_comparing {variant : Variant} {object : BusinessObject} {spec : ClassSpec}
    (made : entityClass variant object = .ok spec) :
    spec.method? "equals" = some (equalsMethod object) ∧
      spec.method? "hashCode" = some (hashCodeMethod object) := by
  obtain ⟨early, methods, names⟩ : ∃ early, spec.methods =
      early ++ [equalsMethod object, hashCodeMethod object] ∧
      early.map Method.name =
        (accessedFields object).flatMap accessorNames := by
    have named := names_entityMethods object
    refine ⟨_, Blueprint.methods_entityClass made, ?_⟩
    rw [entityMethods, List.map_append] at named
    exact List.append_cancel_right named
  have passed : ∀ name ∈ ["equals", "hashCode"], early.find? (fun m => m.name == name) = none := by
    intro name comparing
    refine List.find?_eq_none.2 fun method mem same => ?_
    have accessor : method.name ∈ (accessedFields object).flatMap accessorNames :=
      names ▸ List.mem_map_of_mem mem
    rw [beq_iff_eq.1 same] at accessor
    exact List.disjoint_left.1 (disjoint_accessorNames _) accessor comparing
  constructor
  · rw [ClassSpec.method?, methods, List.find?_append, passed "equals" (by decide)]
    rfl
  · rw [ClassSpec.method?, methods, List.find?_append, passed "hashCode" (by decide)]
    rfl

/-- The version is compared only if the object declares a field of that name. -/
theorem persistenceVersion_mem_comparedFields {object : BusinessObject} :
    persistenceVersion ∈ comparedFields object ↔
      persistenceVersion ∈ object.fields.map Field.name := by
  have apart : persistenceVersion ≠ persistenceId := by decide
  rw [comparedFields, List.mem_append, List.mem_singleton]
  exact ⟨fun either => either.resolve_right apart, .inl⟩

/-- An object that declares it has a field twice, which is found. -/
theorem persistenceVersion_not_mem {object : BusinessObject}
    (silent : Lint.DuplicateField.check object = []) :
    persistenceVersion ∉ object.fields.map Field.name := by
  rw [Lint.DuplicateField.check_eq_nil_iff_accessedFields, accessedFields, List.map_append,
    List.nodup_append] at silent
  intro declared
  obtain ⟨field, listed, name⟩ := List.mem_map.1 declared
  refine silent.2.2 (Text.capitalize field.name) ?_ (Text.capitalize persistenceVersion) ?_ ?_
  · rw [List.map_map]
    exact List.mem_map_of_mem listed
  · exact List.mem_cons_of_mem _ List.mem_cons_self
  · rw [name]

/-! ## Main result -/

/-- Both variants of an entity are compared and hashed by the same fields, those of the object in
their order and the one that identifies an entity; the version is among them only if the object
declares a field of that name, which is found by the check for duplicate fields. In the file, and
wherever such a method is written for any fields, what compares is one conjunction behind the guards
and the cast, with one comparison for each field and a semicolon at its end, and what hashes passes
on the same fields. -/
theorem compares_and_hashes_alike {variant : Variant} {object : BusinessObject} {spec : ClassSpec}
    (made : entityClass variant object = .ok spec) :
    (∃ listed, listed = object.fields.map Field.name ++ [persistenceId] ∧
      (spec.method? "equals").map Method.body = some (.equals listed) ∧
      (spec.method? "hashCode").map Method.body = some (.hashCode listed) ∧
      (persistenceVersion ∈ listed ↔ persistenceVersion ∈ object.fields.map Field.name) ∧
      (Lint.DuplicateField.check object = [] → persistenceVersion ∉ listed) ∧
      ∃ objects, objects = (settled spec).answer (Resolver.resolve objectsClass) ∧
        (∃ before after, classText spec = before ++
          (lineAt .java 1 (signatureText (settled spec) (equalsMethod object) ++ " \x7b") ++
            comparingText .java 2 objects spec.simpleName listed ++ lineAt .java 1 "\x7d") ++
          after) ∧
        ∃ before after, classText spec = before ++
          (lineAt .java 1 (signatureText (settled spec) (hashCodeMethod object) ++ " \x7b") ++
            hashingText .java 2 objects listed ++ lineAt .java 1 "\x7d") ++ after) ∧
    ∀ (names : Resolver) (simpleName : String) (fields : List String), fields ≠ [] →
      ∀ (indent : Indent) (level : Nat),
        textsAt indent level (names.answer (equalsBody simpleName fields)) =
          comparingText indent level (names.answer (Resolver.resolve objectsClass)) simpleName
            fields ∧
        ((∀ field ∈ fields, ';' ∉ field.toList) →
          (conjunctionText indent level (names.answer (Resolver.resolve objectsClass))
            fields).toList.count ';' = 1) ∧
        textsAt indent level (names.answer (hashCodeBody fields)) =
          hashingText indent level (names.answer (Resolver.resolve objectsClass)) fields := by
  obtain ⟨equals, hashCode⟩ := method?_comparing made
  have first : equalsMethod object ∈ spec.methods := comparing_mem_methods made List.mem_cons_self
  have second : hashCodeMethod object ∈ spec.methods :=
    comparing_mem_methods made (List.mem_cons_of_mem _ List.mem_cons_self)
  have someFields : comparedFields object ≠ [] := comparedFields_ne_nil object
  refine ⟨⟨comparedFields object, rfl, ?_, ?_, persistenceVersion_mem_comparedFields, ?_, _, rfl,
    ?_, ?_⟩, ?_⟩
  · rw [equals]
    rfl
  · rw [hashCode]
    rfl
  · intro silent
    rw [persistenceVersion_mem_comparedFields]
    exact persistenceVersion_not_mem silent
  · have text := methodText_eq first rfl
    rw [equalsMethod, bodyFragments, textsAt_equalsBody _ _ someFields, ← equalsMethod] at text
    rw [← text]
    exact exists_classText_eq_methodText first
  · have text := methodText_eq second rfl
    rw [hashCodeMethod, bodyFragments, textsAt_hashCodeBody, ← hashCodeMethod] at text
    rw [← text]
    exact exists_classText_eq_methodText second
  · intro names simpleName fields nonempty indent level
    refine ⟨textsAt_equalsBody names simpleName nonempty, fun free => ?_,
      textsAt_hashCodeBody names fields⟩
    have spellings : ∀ text ∈ ["Objects", "java.util.Objects"], ';' ∉ text.toList := by decide
    exact count_conjunctionText (spellings _ (answer_objectsClass names)) free indent level

/-- An object with two fields. -/
def account : BusinessObject where
  qualifiedName := "org.acme.Account"
  description := none
  fields := [⟨"note", .string, true, none⟩, ⟨"amount", .long, false, none⟩]
  queries := []
  uniqueConstraints := []

/-- The method by which its entities are compared. -/
def accountEquals : String :=
  "    public boolean equals(Object obj) \x7b\n" ++
    "        if (this == obj) \x7b\n" ++
    "            return true;\n" ++
    "        \x7d\n" ++
    "        if (obj == null || getClass() != obj.getClass()) \x7b\n" ++
    "            return false;\n" ++
    "        \x7d\n" ++
    "        Account other = (Account) obj;\n" ++
    "        return Objects.equals(this.note, other.note)\n" ++
    "                && Objects.equals(this.amount, other.amount)\n" ++
    "                && Objects.equals(this.persistenceId, other.persistenceId);\n" ++
    "    \x7d\n"

theorem compares_and_hashes_alike_account :
    ∃ spec, entityClass .server account = .ok spec ∧
      (spec.method? "equals").map Method.body = some (.equals ["note", "amount", "persistenceId"]) ∧
      (spec.method? "hashCode").map Method.body =
        some (.hashCode ["note", "amount", "persistenceId"]) ∧
      (∃ before after, classText spec = before ++ accountEquals ++ after) ∧
      (∃ before after, classText spec = before ++
        ("    public int hashCode() \x7b\n" ++
          "        return Objects.hash(note, amount, persistenceId);\n" ++ "    \x7d\n") ++
        after) := by
  obtain ⟨spec, made⟩ := Blueprint.exists_entityClass_eq_ok .server
    (show Blueprint.typeNameFault? account.qualifiedName = none by decide)
    (Blueprint.constraintsDeclared_of_eq_nil (show account.uniqueConstraints = [] from rfl))
  obtain ⟨⟨listed, rfl, equals, hashCode, -, -, objects, written, compared, hashed⟩, -⟩ :=
    compares_and_hashes_alike made
  have spelled : (entityClass .server account).toOption.map
      (fun spec => ((settled spec).answer (Resolver.resolve objectsClass), spec.simpleName,
        signatureText (settled spec) (equalsMethod account))) =
        some ("Objects", "Account", "public boolean equals(Object obj)") := by decide +kernel
  rw [made, Except.toOption, Option.map_some, ← written] at spelled
  simp only [Option.some.injEq, Prod.mk.injEq] at spelled
  obtain ⟨rfl, simpleName, signature⟩ := spelled
  have text : lineAt .java 1 ("public boolean equals(Object obj)" ++ " \x7b") ++
      comparingText .java 2 "Objects" "Account"
        (account.fields.map Field.name ++ [persistenceId]) ++ lineAt .java 1 "\x7d" =
      accountEquals := by decide +kernel
  rw [simpleName, signature, text] at compared
  exact ⟨spec, made, equals, hashCode, compared, hashed⟩

/-- An object with a field that is named like the version of an entity. -/
def versioned : BusinessObject where
  qualifiedName := "org.acme.Ledger"
  description := none
  fields := [⟨"note", .string, true, none⟩, ⟨"persistenceVersion", .long, true, none⟩]
  queries := []
  uniqueConstraints := []

/-- Entities are made even where fields are duplicate, so that a declared version is compared. -/
theorem not_forall_version_left_out :
    ¬ ∀ (variant : Variant) (object : BusinessObject) (spec : ClassSpec),
      entityClass variant object = .ok spec → ∃ listed,
        (spec.method? "equals").map Method.body = some (.equals listed) ∧
        (spec.method? "hashCode").map Method.body = some (.hashCode listed) ∧
        persistenceVersion ∉ listed := by
  intro leftOut
  obtain ⟨spec, made⟩ := Blueprint.exists_entityClass_eq_ok .client
    (show Blueprint.typeNameFault? versioned.qualifiedName = none by decide)
    (Blueprint.constraintsDeclared_of_eq_nil (show versioned.uniqueConstraints = [] from rfl))
  obtain ⟨listed, equals, -, free⟩ := leftOut .client versioned spec made
  rw [(method?_comparing made).1] at equals
  cases equals
  exact absurd free (by decide)

end Java

end EntityGen
