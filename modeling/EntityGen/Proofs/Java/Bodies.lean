/-
  Proofs/Java/Bodies.lean --- names in the bodies of entities.

  Source: the specification, section 4.2 (`equals(Object)` and `hashCode()` over all
  declared fields), and the scoping rules of `Proofs/Java/Bindings.lean`.

  The methods that compare and hash entities put the names of fields beside names of their
  own. A field never takes the place of a parameter, a local variable or a method, but a
  field called `Objects` does take the place of the type of that name, which both methods
  use.
-/
import EntityGen.Proofs.Blueprint.Entity
import EntityGen.Proofs.Compile.Classes
import EntityGen.Proofs.Java.Bindings
import EntityGen.Proofs.Java.EntityImports
import EntityGen.Proofs.Java.MethodTokens
import EntityGen.Proofs.Java.References
import EntityGen.Proofs.Lint.Accessors

set_option autoImplicit false

namespace EntityGen.Java

open EntityGen.Blueprint (ClassSpec Method Variant comparedFields entityClass equalsMethod
  hashCodeMethod)
open EntityGen.Layout.Fragment (textsAt)
open EntityGen.Model (BusinessObject DataModel)
open EntityGen.Naming (namespaceOf simpleNameOf)

/-! ## Readings of methods -/

/-- The names in a method that compares objects, up to its statements about fields. -/
def guardReadings (objectType : String) : List Reading := [
  ("equals", .method), ("Object", .type objectType), ("obj", .parameter), ("obj", .parameter),
  ("obj", .parameter), ("getClass", .method), ("obj", .parameter), ("getClass", .method)]

/-- The names in the declaration of the other object. -/
def castReadings (simpleName type : String) : List Reading :=
  [(simpleName, .type type), ("other", .localVariable), (simpleName, .type type),
    ("obj", .parameter)]

/-- The names in the comparison of a field, given what the first of them denotes. -/
def comparisonReadings (objects : Binding) (field : String) : List Reading :=
  [("Objects", objects), ("equals", .method), (field, .field), ("other", .localVariable),
    (field, .field)]

/-- The names in the method that compares entities of an object, given what the names before `equals`
denote. -/
def equalsReadings (object : BusinessObject) (objects : Binding) : List Reading :=
  guardReadings "java.lang.Object" ++ castReadings object.simpleName object.qualifiedName ++
    (comparedFields object).flatMap (comparisonReadings objects)

/-- The names in the method that hashes entities of an object, given what the name before `hash`
denotes. -/
def hashCodeReadings (object : BusinessObject) (objects : Binding) : List Reading :=
  ("hashCode", .method) :: ("Objects", objects) :: ("hash", .method) ::
    (comparedFields object).map fun field => (field, .field)

section Readings

variable {scope : Scope} {before : Option Token} {simpleName field : String} {fields : List String}

/-- The parameter of the method that compares objects. -/
def objVariable (scope : Scope) : Variable :=
  ⟨"obj", scope.denotes "Object", .parameter⟩

/-- The variables of the method that compares objects, where it looks at fields. -/
def equalsVariables (scope : Scope) (simpleName : String) : List Variable :=
  [⟨"other", scope.denotes simpleName, .localVariable⟩, objVariable scope]

theorem readingsFrom_guards (scope : Scope) (rest : List Token) :
    readingsFrom scope [] none (equalsHeadTokens ++ .mark '\x7b' :: guardTokens ++ rest) =
      guardReadings (scope.denotes "Object") ++
        readingsFrom scope [objVariable scope] (some (.mark '\x7d')) rest :=
  rfl

theorem readingsFrom_cast (free : isKeyword simpleName = false) (rest : List Token) :
    readingsFrom scope [objVariable scope] before (castTokens simpleName ++ rest) =
      castReadings simpleName (scope.denotes simpleName) ++
        readingsFrom scope (equalsVariables scope simpleName) (some (.mark ';')) rest := by
  have named : nameOf? (some (.word simpleName)) = some simpleName := by simp [nameOf?, free]
  simp only [castTokens, List.cons_append, List.nil_append]
  rw [readingsFrom_type free rfl, readingsFrom_declaration (by decide) rfl named,
    readingsFrom_mark, readingsFrom_mark, readingsFrom_type free rfl]
  rfl

/-- What is compared are the fields of the object and of the other one. -/
theorem readingsFrom_comparison (own : scope.denotes simpleName = scope.className)
    (identifier : isIdentifier field = true) (listed : field ∈ scope.fields)
    (plain : nameOf? before = none) (rest : List Token) :
    readingsFrom scope (equalsVariables scope simpleName) before (comparisonTokens field ++ rest) =
      comparisonReadings (scope.qualifier [] "Objects") field ++
        readingsFrom scope (equalsVariables scope simpleName) (some (.mark ')')) rest := by
  have undotted := not_mem_dot_of_isIdentifier identifier
  have selected : scope.selected (some scope.className) false field = .field := by
    simp [Scope.selected, listed]
  have other : (Scope.lookup (equalsVariables scope simpleName) "other").map Variable.type =
      some scope.className := congrArg some own
  have mine : scope.word (equalsVariables scope simpleName) false (Naming.dotted "this" field) =
      [(field, .field)] := by
    rw [Scope.word_this undotted, selected]
  have its : scope.word (equalsVariables scope simpleName) false (Naming.dotted "other" field) =
      [("other", .localVariable), (field, .field)] := by
    rw [Scope.word_dotted (by decide) undotted (by decide), other, selected]
    rfl
  have notKeyword : ∀ owner, isKeyword (Naming.dotted owner field) = false := by
    intro owner
    refine isKeyword_of_mem_dot ?_
    rw [Naming.toList_dotted]
    exact List.mem_append_right _ List.mem_cons_self
  have called : scope.word (equalsVariables scope simpleName) true "Objects.equals" =
      [("Objects", scope.qualifier [] "Objects"), ("equals", .method)] := rfl
  simp only [comparisonTokens, List.cons_append, List.nil_append]
  rw [readingsFrom_word (by decide) rfl plain called rfl, readingsFrom_mark,
    readingsFrom_word (notKeyword _) rfl rfl mine rfl, readingsFrom_mark,
    readingsFrom_word (notKeyword _) rfl rfl its rfl, readingsFrom_mark]
  rfl

theorem readingsFrom_comparisons (own : scope.denotes simpleName = scope.className)
    (each : ∀ field ∈ fields, isIdentifier field = true ∧ field ∈ scope.fields)
    (nonempty : fields ≠ []) (plain : nameOf? before = none) (rest : List Token) :
    readingsFrom scope (equalsVariables scope simpleName) before
        (comparisonsTokens fields ++ rest) =
      fields.flatMap (comparisonReadings (scope.qualifier [] "Objects")) ++
        readingsFrom scope (equalsVariables scope simpleName) (some (.mark ')')) rest := by
  induction fields generalizing before with
  | nil => exact absurd rfl nonempty
  | cons first others ih =>
    obtain ⟨identifier, listed⟩ := each first List.mem_cons_self
    cases others with
    | nil =>
      rw [comparisonsTokens, readingsFrom_comparison own identifier listed plain,
        List.flatMap_singleton]
    | cons second others =>
      have later := ih (fun field mem => each field (List.mem_cons_of_mem _ mem))
        (List.cons_ne_nil _ _) (rfl : nameOf? (some (.mark '&')) = none)
      rw [List.flatMap_cons, List.append_assoc, ← later, comparisonsTokens_cons, List.append_assoc,
        readingsFrom_comparison own identifier listed plain, List.cons_append, List.cons_append,
        readingsFrom_mark, readingsFrom_mark]

/-- The fields that are hashed are those of the object, which has no variables there. -/
theorem readingsFrom_arguments
    (each : ∀ field ∈ fields, isIdentifier field = true ∧ field ∈ scope.fields)
    (plain : nameOf? before = none) (rest : List Token) :
    readingsFrom scope [] before ((fields.map Token.word).intersperse (.mark ',') ++
        .mark ')' :: .mark ';' :: rest) =
      fields.map (fun field => (field, .field)) ++
        readingsFrom scope [] (some (.mark ';')) rest := by
  induction fields generalizing before with
  | nil => rfl
  | cons first others ih =>
    obtain ⟨identifier, listed⟩ := each first List.mem_cons_self
    have free := isKeyword_of_isIdentifier identifier
    have here : scope.word [] false first = [(first, .field)] := by
      rw [Scope.word_of_not_mem (not_mem_dot_of_isIdentifier identifier)]
      simp [Scope.value, Scope.lookup, listed]
    cases others with
    | nil =>
      have closed : ((nameOf? (Token.mark ')' :: .mark ';' :: rest).head?).isSome ||
          isCast before (.mark ')' :: .mark ';' :: rest)) = false := by simp [isCast, nameOf?]
      rw [List.map_singleton, List.intersperse_singleton, List.singleton_append,
        readingsFrom_word free closed plain here rfl]
      rfl
    | cons second others =>
      have later := ih (fun field mem => each field (List.mem_cons_of_mem _ mem))
        (rfl : nameOf? (some (.mark ',')) = none)
      rw [List.map_cons, List.map_cons, List.intersperse_cons_cons, List.cons_append,
        List.cons_append, readingsFrom_word free rfl plain here rfl, readingsFrom_mark,
        ← List.map_cons, later]
      rfl

theorem identifiers_equalsReadings {object : BusinessObject}
    (each : ∀ field ∈ comparedFields object, isIdentifier field = true)
    (own : isIdentifier object.simpleName = true) (objects : Binding) :
    ∀ reading ∈ equalsReadings object objects, isIdentifier reading.1 = true := by
  have guards : (guardReadings "java.lang.Object").all (fun reading => isIdentifier reading.1) =
      true := by decide
  rw [equalsReadings, List.forall_mem_append, List.forall_mem_append]
  refine ⟨⟨List.all_eq_true.1 guards, ?_⟩, fun reading mem => ?_⟩
  · simp only [castReadings, List.forall_mem_cons]
    exact ⟨own, by decide, own, by decide, List.forall_mem_nil _⟩
  · obtain ⟨field, listed, here⟩ := List.mem_flatMap.1 mem
    have legal := each field listed
    have all : ∀ reading ∈ comparisonReadings objects field, isIdentifier reading.1 = true := by
      simp only [comparisonReadings, List.forall_mem_cons]
      exact ⟨by decide, by decide, legal, by decide, legal, List.forall_mem_nil _⟩
    exact all reading here

theorem identifiers_hashCodeReadings {object : BusinessObject}
    (each : ∀ field ∈ comparedFields object, isIdentifier field = true) (objects : Binding) :
    ∀ reading ∈ hashCodeReadings object objects, isIdentifier reading.1 = true := by
  simp only [hashCodeReadings, List.forall_mem_cons, List.forall_mem_map]
  exact ⟨rfl, rfl, rfl, each⟩

/-- The names in the method that compares objects, where the class and its types are known by their
names. The one before `equals` denotes what it would denote without variables. -/
theorem readingsFrom_equalsTokens {object : BusinessObject}
    (className : scope.className = object.qualifiedName)
    (own : scope.denotes object.simpleName = object.qualifiedName)
    (objectType : scope.denotes "Object" = "java.lang.Object")
    (each : ∀ field ∈ comparedFields object, isIdentifier field = true ∧ field ∈ scope.fields)
    (identifier : isIdentifier object.simpleName = true) :
    readingsFrom scope [] none (equalsTokens object.simpleName (comparedFields object)) =
      equalsReadings object (scope.qualifier [] "Objects") := by
  have compared := readingsFrom_comparisons (own.trans className.symm) each
    (comparedFields_ne_nil object) (rfl : nameOf? (some (.word "return")) = none)
    [.mark ';', .mark '\x7d']
  rw [equalsTokens, List.append_assoc, List.append_assoc, readingsFrom_guards,
    readingsFrom_cast (isKeyword_of_isIdentifier identifier), List.cons_append,
    readingsFrom_keyword (by decide), compared, own, objectType, equalsReadings, List.append_assoc]
  exact congrArg (_ ++ ·) (congrArg (_ ++ ·) (List.append_nil _))

theorem readingsFrom_hashCodeTokens {object : BusinessObject}
    (each : ∀ field ∈ comparedFields object, isIdentifier field = true ∧ field ∈ scope.fields) :
    readingsFrom scope [] none (hashCodeTokens (comparedFields object)) =
      hashCodeReadings object (scope.qualifier [] "Objects") := by
  have hashed := readingsFrom_arguments each (rfl : nameOf? (some (.mark '(')) = none)
    [.mark '\x7d']
  have head : ∀ rest, readingsFrom scope [] none (hashCodeHeadTokens ++ rest) =
      ("hashCode", .method) :: ("Objects", scope.qualifier [] "Objects") :: ("hash", .method) ::
        readingsFrom scope [] (some (.mark '(')) rest :=
    fun _ => rfl
  rw [hashCodeTokens, List.append_assoc, head, hashed, hashCodeReadings]
  exact congrArg (_ :: _ :: _ :: ·) (List.append_nil _)

end Readings

/-! ## Entities -/

/-- The class of an entity as the scope of its methods, in a program that generates these types. -/
def scopeOf (generated : List String) (spec : ClassSpec) : Scope where
  className := spec.qualifiedName
  fields := spec.fields.map Blueprint.Member.name
  denotes text := denoted generated spec.qualifiedName (classUnit spec).imports text text

/-- A method as it stands in the file of a class, behind its annotations. -/
def methodText (spec : ClassSpec) (method : Method) : String :=
  textsAt .java 1
    ((settled spec).answer (methodFragments spec.simpleName (bareMethod method)))

/-- Each stretch stands in the text of all of them. -/
theorem Stretch.exists_textOf_eq {stretch : Stretch} {stretches : List Stretch}
    (mem : stretch ∈ stretches) :
    ∃ before after, Stretch.textOf stretches = before ++ stretch.text ++ after := by
  obtain ⟨early, late, rfl⟩ := List.append_of_mem mem
  refine ⟨Stretch.textOf early, Stretch.textOf late, ?_⟩
  rw [Stretch.textOf_append, Stretch.textOf_cons, String.append_assoc]

/-- The methods of a class stand in its file. -/
theorem exists_classText_eq_methodText {spec : ClassSpec} {method : Method}
    (mem : method ∈ spec.methods) :
    ∃ before after, classText spec = before ++ methodText spec method ++ after := by
  have here : Stretch.ofCode (methodText spec method) ∈
      methodStretches (settled spec) spec.simpleName method := by
    rw [methodStretches, methodText]
    exact List.mem_append_right _ (List.mem_singleton_self _)
  have among : Stretch.ofCode (methodText spec method) ∈ stretches spec := by
    rw [stretches, bodyStretches]
    refine List.mem_append_right _ (List.mem_append_left _ (List.mem_append_right _ ?_))
    exact List.mem_flatMap.2 ⟨method, mem, here⟩
  rw [classText_eq_textOf]
  obtain ⟨before, after, whole⟩ := Stretch.exists_textOf_eq among
  exact ⟨before, after, whole⟩

theorem methodMentions_subset_classMentions {spec : ClassSpec} {method : Method}
    (mem : method ∈ spec.methods) : methodMentions method ⊆ classMentions spec := by
  intro name here
  simp only [classMentions, List.mem_append]
  exact Or.inr (Or.inr (Or.inr (List.mem_flatMap.2 ⟨method, mem, here⟩)))

/-- What a text denotes depends on what it stands for only if that lies in the package of the file. -/
theorem denoted_eq_of_foreign {generated imports : List String} {declared asked other : String}
    (foreign : namespaceOf asked ≠ namespaceOf declared)
    (foreign' : namespaceOf other ≠ namespaceOf declared) (text : String) :
    denoted generated declared imports asked text = denoted generated declared imports other text := by
  simp only [denoted, foreign, foreign']

section Entities

variable {variant : Variant} {model : DataModel} {object : BusinessObject} {spec : ClassSpec}

theorem denotes_simpleName (generated : List String) (spec : ClassSpec) :
    (scopeOf generated spec).denotes spec.simpleName = spec.qualifiedName := by
  have plain : '.' ∉ spec.simpleName.toList := Naming.not_mem_simpleNameOf _
  change denoted _ _ _ _ _ = _
  rw [denoted, if_neg plain]
  exact if_pos rfl

/-- In an entity the simple name of a type of the platform denotes it. -/
theorem denotes_platform (clean : Compile.Clean model) (listed : object ∈ model.objects)
    (made : entityClass variant object = .ok spec) {name : String} (platform : name ∈ platformTypes)
    (mem : name ∈ classMentions spec) :
    (scopeOf (Compile.generatedNames model) spec).denotes (simpleNameOf name) = name := by
  have free : Blueprint.typeNameFault? spec.qualifiedName = none := by
    rw [Blueprint.qualifiedName_of_entityClass made]
    exact clean.typeNames object listed
  have importable := platformTypes_apart.2.1 name platform
  have written : simpleNameOf name =
      spelling (claimants spec.qualifiedName (classMentions spec)) name := by
    have owns := owner?_platform free (classMentions_subset_entityTypes made) platform mem
    rw [spelling, if_pos ⟨importable, owns⟩]
  have faithful := faithful_entityClass clean listed made (name, simpleNameOf name)
    (mem_transcript.2 ⟨mem, written⟩) importable
  have foreign : namespaceOf name ≠ namespaceOf spec.qualifiedName := by
    rcases namespaceOf_entityTypes.1 name platform with inside | inside
    · rw [inside]
      exact (namespaceOf_ne_of_free free (by decide)).symm
    · rw [inside]
      exact (namespaceOf_ne_of_free free (by decide)).symm
  have simple : namespaceOf (simpleNameOf name) ≠ namespaceOf spec.qualifiedName := by
    have none : namespaceOf (simpleNameOf name) = "" := by
      rw [namespaceOf, Text.cutAtLast_eq_none_iff.2 (Naming.not_mem_simpleNameOf name)]
    rw [none]
    intro empty
    have packaged := packaged_of_free free
    rw [← empty] at packaged
    cases packaged
  exact (denoted_eq_of_foreign simple foreign _).trans faithful

/-- The fields of an entity are those that are compared, and the version. -/
theorem fields_scopeOf (generated : List String) (made : entityClass variant object = .ok spec) :
    (scopeOf generated spec).fields = comparedFields object ++ [Blueprint.persistenceVersion] := by
  have names := (Lint.DuplicateField.names_entityClass made).2
  rw [Lint.DuplicateField.accessedFields, List.map_append, List.map_map] at names
  rw [comparedFields, List.append_assoc]
  exact names

/-- The methods that compare and hash are among those of the entity. -/
theorem comparing_mem_methods (made : entityClass variant object = .ok spec) {method : Method}
    (mem : method ∈ [equalsMethod object, hashCodeMethod object]) : method ∈ spec.methods := by
  rw [Blueprint.methods_entityClass made, Blueprint.entityMethods]
  exact List.mem_append_right _ mem

/-- The two types that these methods mention are written by their simple names, which denote them. -/
theorem simple_of_comparing (clean : Compile.Clean model) (listed : object ∈ model.objects)
    (made : entityClass variant object = .ok spec) :
    ∀ name ∈ ["java.lang.Object", objectsClass],
      (settled spec).answer (Resolver.resolve name) = simpleNameOf name ∧
        (scopeOf (Compile.generatedNames model) spec).denotes (simpleNameOf name) = name := by
  intro name among
  have platform : name ∈ platformTypes := by
    have all : ["java.lang.Object", objectsClass] ⊆ platformTypes := by decide
    exact all among
  have mentioned : name ∈ classMentions spec := by
    have equals := comparing_mem_methods made List.mem_cons_self
    refine methodMentions_subset_classMentions equals ?_
    rw [methodMentions_equals]
    exact List.mem_cons_of_mem _ among
  have free : Blueprint.typeNameFault? spec.qualifiedName = none := by
    rw [Blueprint.qualifiedName_of_entityClass made]
    exact clean.typeNames object listed
  exact ⟨answer_platform free (classMentions_subset_entityTypes made) platform mentioned,
    denotes_platform clean listed made platform mentioned⟩

/-- What the name before `equals` and `hash` denotes in an entity. -/
def objectsBinding (object : BusinessObject) : Binding :=
  if "Objects" ∈ object.fields.map Model.Field.name then .field else .type objectsClass

theorem qualifier_objects {generated : List String} (made : entityClass variant object = .ok spec)
    (type : (scopeOf generated spec).denotes "Objects" = objectsClass) :
    (scopeOf generated spec).qualifier [] "Objects" = objectsBinding object := by
  have declared : "Objects" ∈ (scopeOf generated spec).fields ↔
      "Objects" ∈ object.fields.map Model.Field.name := by
    simp [fields_scopeOf generated made, comparedFields, Blueprint.persistenceId,
      Blueprint.persistenceVersion]
  unfold objectsBinding Scope.qualifier Scope.value
  by_cases hit : "Objects" ∈ object.fields.map Model.Field.name
  · simp [Scope.lookup, declared, hit]
  · simp [Scope.lookup, declared, hit, type]

/-- The fields that are compared have names that are identifiers, and are fields of the entity. -/
theorem comparedFields_usable (clean : Compile.Clean model) (listed : object ∈ model.objects)
    (made : entityClass variant object = .ok spec) (generated : List String) :
    ∀ field ∈ comparedFields object,
      isIdentifier field = true ∧ field ∈ (scopeOf generated spec).fields := by
  intro field mem
  rw [fields_scopeOf generated made]
  refine ⟨?_, List.mem_append_left _ mem⟩
  rcases List.mem_append.1 mem with declared | id
  · obtain ⟨own, among, rfl⟩ := List.mem_map.1 declared
    exact (clean.fields object listed own among).1
  · rw [List.mem_singleton.1 id]
    decide

/-- What is read in fragments with these tokens, if all of it are identifiers. -/
theorem readings_of_hasTokens {scope : Scope} {parts : List Layout.Fragment} {tokens : List Token}
    {found : List Reading} (tokened : HasTokens parts tokens)
    (read : readingsFrom scope [] none tokens = found)
    (legal : ∀ reading ∈ found, isIdentifier reading.1 = true) :
    readings scope (textsAt .java 1 parts) = some found := by
  rw [readings, tokened.scanned 1, Option.map_some, read, List.filter_eq_self.2 legal]

/-- The names in both methods of an entity. Only what stands before `equals` and `hash` depends on the
fields. -/
theorem readings_entity (clean : Compile.Clean model) (listed : object ∈ model.objects)
    (made : entityClass variant object = .ok spec) :
    (isIdentifier object.simpleName = true →
      readings (scopeOf (Compile.generatedNames model) spec)
          (methodText spec (equalsMethod object)) =
        some (equalsReadings object (objectsBinding object))) ∧
      readings (scopeOf (Compile.generatedNames model) spec)
          (methodText spec (hashCodeMethod object)) =
        some (hashCodeReadings object (objectsBinding object)) := by
  obtain ⟨⟨objectText, objectType⟩, ⟨objectsText, objectsType⟩, -⟩ :=
    List.forall_mem_cons.1 (simple_of_comparing clean listed made) |>.imp_right
      List.forall_mem_cons.1
  rw [(by decide : simpleNameOf "java.lang.Object" = "Object")] at objectText objectType
  rw [(by decide : simpleNameOf objectsClass = "Objects")] at objectsText objectsType
  have known : ∀ method ∈ [equalsMethod object, hashCodeMethod object],
      (settled spec).Knows (methodMentions method) := fun method mem =>
    (knows_settled spec).mono (methodMentions_subset_classMentions (comparing_mem_methods made mem))
  have usable := comparedFields_usable clean listed made (Compile.generatedNames model)
  have legal : ∀ field ∈ comparedFields object, isIdentifier field = true :=
    fun field mem => (usable field mem).1
  have words : ∀ field ∈ comparedFields object, IsWord field :=
    fun field mem => isWord_of_isIdentifier (legal field mem)
  have named := Blueprint.qualifiedName_of_entityClass made
  have simple : spec.simpleName = object.simpleName := congrArg simpleNameOf named
  have own := denotes_simpleName (Compile.generatedNames model) spec
  rw [simple, named] at own
  rw [← qualifier_objects made objectsType]
  constructor
  · intro identifier
    have equals := known _ List.mem_cons_self
    rw [methodText, simple, answer_equalsMethod equals objectText objectsText]
    exact readings_of_hasTokens (hasTokens_equals words (isWord_of_isIdentifier identifier))
      (readingsFrom_equalsTokens named own objectType usable identifier)
      (identifiers_equalsReadings legal identifier _)
  · have hashCode := known _ (List.mem_cons_of_mem _ List.mem_cons_self)
    rw [methodText, answer_hashCodeMethod hashCode objectsText]
    exact readings_of_hasTokens (hasTokens_hashCode words) (readingsFrom_hashCodeTokens usable)
      (identifiers_hashCodeReadings legal _)

end Entities

/-! ## Main result -/

/-- Each name in the methods of an entity that compare and hash denotes what is meant: `Objects` the
type of that name, `obj` the parameter, `other` the local variable, and the names of fields the fields
of the entity and of the other one. -/
def BindsAsMeant (generated : List String) (object : BusinessObject) (spec : ClassSpec) : Prop :=
  readings (scopeOf generated spec) (methodText spec (equalsMethod object)) =
      some (equalsReadings object (.type objectsClass)) ∧
    readings (scopeOf generated spec) (methodText spec (hashCodeMethod object)) =
      some (hashCodeReadings object (.type objectsClass))

/-- In an entity of a clean model all names denote what is meant, if the class can be named at all, unless
a field is called `Objects`. -/
theorem bindsAsMeant_iff {variant : Variant} {model : DataModel} {object : BusinessObject}
    {spec : ClassSpec} (clean : Compile.Clean model) (listed : object ∈ model.objects)
    (made : entityClass variant object = .ok spec) :
    BindsAsMeant (Compile.generatedNames model) object spec ↔
      isIdentifier object.simpleName = true ∧ "Objects" ∉ object.fields.map Model.Field.name := by
  obtain ⟨equals, hashCode⟩ := readings_entity clean listed made
  constructor
  · rintro ⟨first, second⟩
    have all := isIdentifier_of_readings first
    simp only [equalsReadings, castReadings, List.forall_mem_append, List.forall_mem_cons] at all
    refine ⟨all.1.2.1, fun hit => ?_⟩
    rw [hashCode, objectsBinding, if_pos hit] at second
    simp [hashCodeReadings] at second
  · rintro ⟨identifier, free⟩
    rw [objectsBinding, if_neg free] at equals hashCode
    exact ⟨equals identifier, hashCode⟩

/-- In the program of a model without errors every entity has its methods that compare and hash in its
file. All names in them denote what is meant, except that the one before `equals` and `hash` denotes a
field if there is one called `Objects`, and that a class cannot be named there whose own name is no
identifier. -/
theorem bodies_bind_iff {variant : Variant} {model : DataModel}
    (noErrors : (Compile.check variant model).hasErrors = false) :
    ∃ context program, Compile.compile variant [] model = .ok context ∧
      context.program = some program ∧
      List.Forall₂ (fun object spec => entityClass variant object = .ok spec ∧
          (∀ method ∈ [equalsMethod object, hashCodeMethod object], method ∈ spec.methods ∧
            ∃ before after, classText spec = before ++ methodText spec method ++ after) ∧
          (isIdentifier object.simpleName = true →
            readings (scopeOf program.names spec) (methodText spec (equalsMethod object)) =
              some (equalsReadings object (objectsBinding object))) ∧
          readings (scopeOf program.names spec) (methodText spec (hashCodeMethod object)) =
            some (hashCodeReadings object (objectsBinding object)) ∧
          (BindsAsMeant program.names object spec ↔
            isIdentifier object.simpleName = true ∧
              "Objects" ∉ object.fields.map Model.Field.name))
        model.objects (Compile.entitiesOf program) := by
  obtain ⟨clean, context, program, compiled, built, entities, -⟩ := Compile.exists_program noErrors
  have names : program.names = Compile.generatedNames model := by
    obtain ⟨-, pairs, same, made, items, rfl⟩ := Compile.compile_eq_ok_iff.1 compiled
    cases built
    exact Compile.names_program made items
  refine ⟨context, program, compiled, built, Compile.forall₂_of_mem entities ?_⟩
  intro object listed spec made
  obtain ⟨equals, hashCode⟩ := readings_entity clean listed made
  rw [names]
  refine ⟨made, fun method mem => ?_, equals, hashCode, bindsAsMeant_iff clean listed made⟩
  have own := comparing_mem_methods made mem
  exact ⟨own, exists_classText_eq_methodText own⟩

/-- An object with fields that are named like the variables and methods beside them. -/
def listened : DataModel where
  items := [⟨"org.acme.Event", none, [⟨"obj", .string, false, none⟩, ⟨"other", .date, true, none⟩,
    ⟨"hash", .long, true, none⟩, ⟨"objects", .text, true, none⟩], [], []⟩]
  distinct := by decide

theorem bodies_bind_listened :
    (Compile.check .server listened).hasErrors = false ∧
      ∃ context program, Compile.compile .server [] listened = .ok context ∧
        context.program = some program ∧
        List.Forall₂ (fun object spec => entityClass .server object = .ok spec ∧
            (∀ method ∈ [equalsMethod object, hashCodeMethod object], method ∈ spec.methods ∧
              ∃ before after, classText spec = before ++ methodText spec method ++ after) ∧
            (isIdentifier object.simpleName = true →
              readings (scopeOf program.names spec) (methodText spec (equalsMethod object)) =
                some (equalsReadings object (objectsBinding object))) ∧
            readings (scopeOf program.names spec) (methodText spec (hashCodeMethod object)) =
              some (hashCodeReadings object (objectsBinding object)) ∧
            (BindsAsMeant program.names object spec ↔
              isIdentifier object.simpleName = true ∧
                "Objects" ∉ object.fields.map Model.Field.name))
          listened.objects (Compile.entitiesOf program) := by
  have noErrors : (Compile.check .server listened).hasErrors = false := by decide +kernel
  exact ⟨noErrors, bodies_bind_iff noErrors⟩

/-- An object with a field that is named like the class that compares and hashes values. -/
def packed : DataModel where
  items := [⟨"org.acme.Parcel", none, [⟨"Objects", .integer, false, none⟩], [], []⟩]
  distinct := by decide

/-- The checks let a field take the place of the class that compares and hashes values. -/
theorem objects_captured :
    (Compile.check .client packed).hasErrors = false ∧
      ∃ context program, Compile.compile .client [] packed = .ok context ∧
        context.program = some program ∧ ∃ object spec, object ∈ packed.objects ∧
          spec ∈ Compile.entitiesOf program ∧
          readings (scopeOf (Compile.generatedNames packed) spec)
              (methodText spec (hashCodeMethod object)) =
            some [("hashCode", .method), ("Objects", .field), ("hash", .method),
              ("Objects", .field), ("persistenceId", .field)] := by
  have noErrors : (Compile.check .client packed).hasErrors = false := by decide +kernel
  obtain ⟨clean, context, program, compiled, built, entities, -⟩ := Compile.exists_program noErrors
  obtain ⟨spec, others, made, -, items⟩ := List.forall₂_cons_left_iff.1 entities
  have hashCode := (readings_entity clean List.mem_cons_self made).2
  exact ⟨noErrors, context, program, compiled, built, _, spec, List.mem_cons_self,
    items ▸ List.mem_cons_self, hashCode⟩

end EntityGen.Java
