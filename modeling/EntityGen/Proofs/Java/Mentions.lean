/-
  Proofs/Java/Mentions.lean --- what a class mentions.

  Source: `Java/ClassText.lean`: the order in which the parts of a file claim simple names.

  Writing a class is asking for the spelling of the types that it mentions, in a fixed
  order, and filling in the answers. The types are listed here for each part of a class, in
  the order in which the part is written.

  With the mentions at hand a file is a function of the answers, and the state of the
  resolver need not be followed any more.
-/
import EntityGen.Java.ClassText
import EntityGen.Proofs.Java.Resolution

set_option autoImplicit false

namespace EntityGen.Java

open EntityGen.Blueprint (Body ClassSpec Member Method MethodParameter Primitive Tag TagKind
  TagValue TypeRef)
open EntityGen.Layout (Fragment)

/-! ## Asking -/

variable {α β : Type}

/-- The action asks for the spelling of these types in this order and for nothing else, and its result
is made from the answers. -/
def Asks (action : StateM Resolver α) (names : List String) : Prop :=
  ∃ fill : List String → α, ∀ resolver,
    let answers := (names.mapM Resolver.resolve).run resolver
    action.run resolver = (fill answers.1, answers.2)

/-- There is one answer to each question. -/
theorem length_answers (names : List String) (resolver : Resolver) :
    ((names.mapM Resolver.resolve).run resolver).1.length = names.length := by
  induction names generalizing resolver with
  | nil => rfl
  | cons name rest ih =>
    rw [run_mapM_cons, List.length_cons, List.length_cons, ih]

theorem Asks.pure (value : α) : Asks (Pure.pure value) [] :=
  ⟨fun _ => value, fun _ => rfl⟩

theorem Asks.resolve (name : String) : Asks (Resolver.resolve name) [name] := by
  refine ⟨fun answers => answers.headD "", fun resolver => ?_⟩
  simp only
  rw [run_mapM_cons]
  rfl

/-- Two actions one after the other ask for the types of both. -/
theorem Asks.bind {action : StateM Resolver α} {next : α → StateM Resolver β}
    {names more : List String} (first : Asks action names) (others : ∀ value, Asks (next value) more) :
    Asks (action >>= next) (names ++ more) := by
  obtain ⟨fill, run⟩ := first
  choose fills runs using others
  refine ⟨fun answers => fills (fill (answers.take names.length)) (answers.drop names.length),
    fun resolver => ?_⟩
  have early := length_answers names resolver
  simp only [run_mapM_append]
  rw [List.take_left' early, List.drop_left' early, run_bind, run, runs]

/-- What is made of a result asks for nothing. -/
theorem Asks.map {action : StateM Resolver α} {names : List String} (asks : Asks action names)
    (view : α → β) : Asks (action >>= fun value => Pure.pure (view value)) names := by
  have both := asks.bind fun value => Asks.pure (view value)
  rwa [List.append_nil] at both

theorem Asks.mapM {step : α → StateM Resolver β} {mentions : α → List String}
    (each : ∀ item, Asks (step item) (mentions item)) (items : List α) :
    Asks (items.mapM step) (items.flatMap mentions) := by
  induction items with
  | nil =>
    rw [List.mapM_nil]
    exact Asks.pure []
  | cons item rest ih =>
    rw [List.mapM_cons, List.flatMap_cons]
    exact (each item).bind fun value => ih.map (value :: ·)

theorem Asks.foldlM {step : β → α → StateM Resolver β} {mentions : α → List String}
    (each : ∀ result item, Asks (step result item) (mentions item)) (items : List α) (start : β) :
    Asks (items.foldlM step start) (items.flatMap mentions) := by
  induction items generalizing start with
  | nil =>
    rw [List.foldlM_nil]
    exact Asks.pure start
  | cons item rest ih =>
    rw [List.foldlM_cons, List.flatMap_cons]
    exact (each start item).bind ih

/-! ## Annotations -/

mutual

/-- The types that an annotation mentions. -/
def tagMentions : Tag → List String
  | .mk kind attributes => annotationType kind :: attributeMentions kind attributes

/-- The types that attributes mention. -/
def attributeMentions (kind : TagKind) : List (String × TagValue) → List String
  | [] => []
  | (_, value) :: rest => valueMentions kind value ++ attributeMentions kind rest

/-- The types that the value of an attribute mentions. -/
def valueMentions (kind : TagKind) : TagValue → List String
  | .constant _ => (constantType? kind).toList
  | .tags nested => nestedMentions nested
  | .text _ | .flag _ | .number _ | .texts _ => []

/-- The types that annotations inside another mention. -/
def nestedMentions : List Tag → List String
  | [] => []
  | tag :: rest => tagMentions tag ++ nestedMentions rest

end

theorem asks_constantText (kind : TagKind) (constant : String) :
    Asks (constantText kind constant) (constantType? kind).toList := by
  unfold constantText
  split
  · rename_i type found
    rw [found]
    exact (Asks.resolve type).map fun written => written ++ "." ++ constant
  · rename_i none
    rw [none]
    exact Asks.pure constant

mutual

theorem asks_tag (tag : Tag) : Asks (do annotation tag) (tagMentions tag) := by
  cases tag with
  | mk kind attributes =>
    unfold annotation tagMentions
    rw [← List.singleton_append]
    refine (Asks.resolve _).bind fun name => ?_
    cases attributes with
    | nil => exact Asks.pure _
    | cons first rest => exact (asks_attributesText kind _ _ _ (first :: rest)).map _

theorem asks_attributesText (kind : TagKind) (positional first : Bool) (unfinished : Unfinished)
    (attributes : List (String × TagValue)) :
    Asks (attributesText kind positional first unfinished attributes)
      (attributeMentions kind attributes) := by
  cases attributes with
  | nil => exact Asks.pure unfinished
  | cons pair rest =>
    obtain ⟨name, value⟩ := pair
    unfold attributesText attributeMentions
    exact (asks_attributeText kind _ value).bind fun written =>
      asks_attributesText kind positional false written rest

theorem asks_attributeText (kind : TagKind) (unfinished : Unfinished) (value : TagValue) :
    Asks (attributeText kind unfinished value) (valueMentions kind value) := by
  cases value with
  | tags nested =>
    unfold attributeText valueMentions
    cases nested with
    | nil => exact Asks.pure _
    | cons tag rest => exact (asks_nestedLines (tag :: rest)).map _
  | constant name =>
    unfold attributeText valueMentions
    exact (asks_constantText kind name).map _
  | text text => exact Asks.pure _
  | flag value => exact Asks.pure _
  | number value => exact Asks.pure _
  | texts items => exact Asks.pure _

theorem asks_nestedLines (tags : List Tag) : Asks (nestedLines tags) (nestedMentions tags) := by
  match tags with
  | [] => exact Asks.pure []
  | [last] =>
    unfold nestedLines nestedMentions nestedMentions
    rw [List.append_nil]
    exact (asks_tag last).map indentLines
  | first :: second :: rest =>
    unfold nestedLines nestedMentions
    exact (asks_tag first).bind fun lines => (asks_nestedLines (second :: rest)).map _

end

theorem asks_tagFragments (tags : List Tag) :
    Asks (tagFragments tags) (tags.flatMap tagMentions) :=
  (Asks.foldlM (fun lines tag => (asks_tag tag).map (lines ++ ·)) tags []).map _

/-! ## Types -/

/-- The type behind a built-in type that has a value, if it is mentioned by name. -/
def plainMentions : Primitive → List String
  | .string => ["java.lang.String"]
  | .dateTime => ["java.util.Date"]
  | .int | .long | .float | .double | .bool => []

/-- The type behind a built-in type that may have no value. -/
def boxedMentions : Primitive → List String
  | .int => ["java.lang.Integer"]
  | .long => ["java.lang.Long"]
  | .float => ["java.lang.Float"]
  | .double => ["java.lang.Double"]
  | .bool => ["java.lang.Boolean"]
  | .string => ["java.lang.String"]
  | .dateTime => ["java.util.Date"]

/-- The types that the text of a type mentions. -/
def typeMentions : TypeRef → List String
  | .primitive type => plainMentions type
  | .optional (.primitive type) => boxedMentions type
  | .optional inner => typeMentions inner
  | .array inner => typeMentions inner ++ ["java.util.List"]
  | .named name => [name]
  | .unit => []

theorem asks_plainPrimitive (type : Primitive) : Asks (plainPrimitive type) (plainMentions type) := by
  cases type with
  | string => exact Asks.resolve _
  | dateTime => exact Asks.resolve _
  | int => exact Asks.pure _
  | long => exact Asks.pure _
  | float => exact Asks.pure _
  | double => exact Asks.pure _
  | bool => exact Asks.pure _

theorem asks_boxedPrimitive (type : Primitive) : Asks (boxedPrimitive type) (boxedMentions type) := by
  cases type with
  | string => exact asks_plainPrimitive .string
  | dateTime => exact asks_plainPrimitive .dateTime
  | int => exact Asks.resolve _
  | long => exact Asks.resolve _
  | float => exact Asks.resolve _
  | double => exact Asks.resolve _
  | bool => exact Asks.resolve _

theorem asks_typeText (type : TypeRef) : Asks (typeText type) (typeMentions type) := by
  unfold typeText
  fun_induction typeMentions type with
  | case1 type => exact asks_plainPrimitive type
  | case2 type => exact asks_boxedPrimitive type
  | case3 inner other ih =>
    rw [Blueprint.TypeWriter.write]
    · exact ih
    · exact other
  | case4 inner ih => exact ih.bind fun element => (Asks.resolve _).map _
  | case5 name => exact Asks.resolve name
  | case6 => exact Asks.pure _

/-! ## Members -/

/-- The types that a field mentions. -/
def fieldMentions (member : Member) : List String :=
  member.tags.flatMap tagMentions ++ typeMentions member.type

/-- The types that the statements of a method mention. -/
def bodyMentions : Body → List String
  | .equals fields => if fields.isEmpty then [] else [objectsClass]
  | .hashCode _ => [objectsClass]
  | .abstract | .getter _ | .setter _ _ => []

/-- The types that a method mentions. -/
def methodMentions (method : Method) : List String :=
  method.tags.flatMap tagMentions ++ (typeMentions method.result ++
    (method.parameters.flatMap (fun parameter => typeMentions parameter.type) ++
      bodyMentions method.body))

theorem asks_memberFragments (member : Member) :
    Asks (memberFragments member) (fieldMentions member) :=
  (asks_tagFragments member.tags).bind fun _ => (asks_typeText member.type).map _

theorem asks_bodyFragments (simpleName : String) (body : Body) :
    Asks (bodyFragments simpleName body) (bodyMentions body) := by
  cases body with
  | equals fields =>
    change Asks (equalsBody simpleName fields) (if fields.isEmpty then [] else [objectsClass])
    unfold equalsBody
    cases fields with
    | nil => exact Asks.pure _
    | cons first rest => exact (Asks.resolve objectsClass).map _
  | hashCode fields => exact (Asks.resolve objectsClass).map _
  | abstract => exact Asks.pure _
  | getter field => exact Asks.pure _
  | setter field parameter => exact Asks.pure _

theorem asks_parameterText (parameter : MethodParameter) :
    Asks (parameterText parameter) (typeMentions parameter.type) :=
  (asks_typeText parameter.type).map fun text => text ++ " " ++ parameter.name

theorem asks_methodFragments (simpleName : String) (method : Method) :
    Asks (methodFragments simpleName method) (methodMentions method) := by
  unfold methodFragments methodMentions
  refine (asks_tagFragments method.tags).bind fun tags => ?_
  refine (asks_typeText method.result).bind fun result => ?_
  refine (Asks.mapM asks_parameterText method.parameters).bind fun parameters => ?_
  split
  · rename_i abstract
    have bodyless : method.body = .abstract := by simpa [Method.isAbstract] using abstract
    rw [bodyless]
    exact Asks.pure _
  · exact (asks_bodyFragments simpleName method.body).map _

/-! ## Classes -/

/-- The types that a class mentions. -/
def classMentions (spec : ClassSpec) : List String :=
  spec.tags.flatMap tagMentions ++ (spec.interfaces ++
    (spec.fields.flatMap fieldMentions ++ spec.methods.flatMap methodMentions))

theorem asks_spaced {render : α → StateM Resolver (List Fragment)} {mentions : α → List String}
    (each : ∀ item, Asks (render item) (mentions item)) (items : List α) :
    Asks (spaced render items) (items.flatMap mentions) :=
  Asks.foldlM (fun fragments item => (each item).map (fragments ++ .blank :: ·)) items []

theorem asks_interfaces (interfaces : List String) :
    Asks (interfaces.mapM Resolver.resolve) interfaces := by
  have asks := Asks.mapM Asks.resolve interfaces
  rwa [List.flatMap_singleton'] at asks

/-- Writing a class asks for the types that it mentions. -/
theorem asks_classFragments (spec : ClassSpec) :
    Asks (classFragments spec) (classMentions spec) :=
  (asks_tagFragments spec.tags).bind fun _ =>
    (asks_interfaces spec.interfaces).bind fun _ =>
      (asks_spaced asks_memberFragments spec.fields).bind fun _ =>
        (asks_spaced (asks_methodFragments spec.simpleName) spec.methods).map _

/-- The imports of a file are those of the state after all that the class mentions. -/
theorem imports_classUnit (spec : ClassSpec) :
    (classUnit spec).imports =
      (resolverAfter spec.qualifiedName (classMentions spec)).importedNames := by
  obtain ⟨fill, run⟩ := asks_classFragments spec
  rw [classUnit, run]
  rfl

end EntityGen.Java
