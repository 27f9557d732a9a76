/-
  Proofs/Model/Violations.lean --- what is wrong with a source.

  Source: the specification, section 7 (taxonomy, model validation), listed without stopping
  at the first.

  Everything that breaks a rule in the business objects of a source, listed in the order in
  which it is looked for: object by object the name, whether it was met before, the fields,
  the queries with their parameters, the unique constraints. Nothing is skipped here. The
  rules themselves stop at the first fault they meet, and that is the first one of the list.
  Every one of them is raised in the source, about a name in it.
-/
import EntityGen.Model.Read
import EntityGen.Proofs.Attempts

set_option autoImplicit false

namespace EntityGen.Model

variable {α : Type}

/-! ## First faults -/

/-- The check that fails with the first of several faults. -/
def failFirst : List ModelFault → Check
  | [] => .ok ()
  | fault :: _ => .error fault

theorem failFirst_eq_ok_iff {faults : List ModelFault} :
    failFirst faults = .ok () ↔ faults = [] := by
  cases faults with
  | nil => simp [failFirst]
  | cons fault rest => simp [failFirst]

theorem failFirst_eq_error_iff {faults : List ModelFault} {fault : ModelFault} :
    failFirst faults = .error fault ↔ faults.head? = some fault := by
  cases faults with
  | nil => simp [failFirst]
  | cons first rest => simp [failFirst]

theorem failFirst_append (faults more : List ModelFault) :
    failFirst (faults ++ more) = failFirst faults >>= fun _ => failFirst more := by
  cases faults with
  | nil => rfl
  | cons fault rest => rfl

theorem failFirst_flatMap (faultsOf : α → List ModelFault) (items : List α) :
    failFirst (items.flatMap faultsOf) = items.forM fun item => failFirst (faultsOf item) := by
  induction items with
  | nil => rfl
  | cons item rest ih =>
    rw [List.flatMap_cons, failFirst_append, ih]
    rfl

/-- The faults of items, each of which is looked at together with the items before it. -/
def faultsOfEach (faultsOf : List α → α → List ModelFault) (items : List α) : List ModelFault :=
  items.zipIdx.flatMap fun entry => faultsOf (items.take entry.2) entry.1

/-- Checks that hand on the items before the current one see the same beginnings. -/
theorem checkEach_eq_failFirst {check : List α → α → Check}
    {faultsOf : List α → α → List ModelFault}
    (each : ∀ before item, check before item = failFirst (faultsOf before item))
    (before items : List α) :
    Scope.checkEach check before items =
      failFirst ((items.zipIdx before.length).flatMap fun entry =>
        faultsOf ((before ++ items).take entry.2) entry.1) := by
  induction items generalizing before with
  | nil => rfl
  | cons item rest ih =>
    have here : (before ++ item :: rest).take before.length = before := List.take_left' rfl
    have order : before ++ [item] ++ rest = before ++ item :: rest := by simp
    have later := ih (before ++ [item])
    rw [order, List.length_append, List.length_singleton] at later
    rw [Scope.checkEach, each, later, List.zipIdx_cons, List.flatMap_cons, failFirst_append, here]

theorem checkEach_nil_eq_failFirst {check : List α → α → Check}
    {faultsOf : List α → α → List ModelFault}
    (each : ∀ before item, check before item = failFirst (faultsOf before item))
    (items : List α) :
    Scope.checkEach check [] items = failFirst (faultsOfEach faultsOf items) :=
  checkEach_eq_failFirst each [] items

/-- A name that was met before is at fault. -/
def repeatedFaults (taken : List String) (name : String) (fault : ModelFault) :
    List ModelFault :=
  if name ∈ taken then [fault] else []

namespace Scope

/-! ## Names -/

/-- The faults of a name, given how each of the two checks of it words its fault. -/
def wordFaults (name : String) (keyword : ModelFault) (badName : NameFault → ModelFault) :
    List ModelFault :=
  (if Java.isKeyword name then [keyword] else []) ++
    (Java.identifierFault? name).toList.map fun fault => badName (.notIdentifier fault)

/-- The faults of a name. -/
def nameFaults (scope : Scope) (kind name : String) : List ModelFault :=
  wordFaults name (scope.keyword name kind) (scope.badName name kind)

/-- The faults of a dotted name: it has no dot, or its segments are at fault. -/
def qualifiedNameFaults (scope : Scope) (qualifiedName kind : String) : List ModelFault :=
  (if '.' ∈ qualifiedName.toList then [] else [scope.badName qualifiedName kind .noPackage]) ++
    (Text.split '.' qualifiedName).flatMap fun segment =>
      wordFaults segment (scope.keyword segment kind) (scope.badName qualifiedName kind)

theorem checkName_eq_failFirst (scope : Scope) (name kind : String) :
    scope.checkName name kind = failFirst (scope.nameFaults kind name) := by
  unfold checkName nameFaults wordFaults
  cases Java.isKeyword name with
  | true => rfl
  | false =>
    cases Java.identifierFault? name with
    | none => rfl
    | some fault => rfl

theorem checkSegment_eq_failFirst (scope : Scope) (qualifiedName kind segment : String) :
    scope.checkSegment qualifiedName kind segment =
      failFirst (wordFaults segment (scope.keyword segment kind)
        (scope.badName qualifiedName kind)) := by
  unfold checkSegment wordFaults
  cases Java.isKeyword segment with
  | true => rfl
  | false =>
    cases Java.identifierFault? segment with
    | none => rfl
    | some fault => rfl

theorem checkQualifiedName_eq_failFirst (scope : Scope) (qualifiedName kind : String) :
    scope.checkQualifiedName qualifiedName kind =
      failFirst (scope.qualifiedNameFaults qualifiedName kind) := by
  unfold checkQualifiedName qualifiedNameFaults
  by_cases dotted : '.' ∈ qualifiedName.toList
  · have segments : scope.checkSegment qualifiedName kind = fun segment =>
        failFirst (wordFaults segment (scope.keyword segment kind)
          (scope.badName qualifiedName kind)) :=
      funext fun segment => checkSegment_eq_failFirst scope qualifiedName kind segment
    rw [failFirst_append, failFirst_flatMap, ← segments, if_pos dotted]
    simp only [List.contains_iff_mem, dotted, if_true]
    rfl
  · simp [dotted, failFirst]

/-! ## Parts of business objects -/

/-- The faults of a field. -/
def fieldFaults (scope : Scope) (before : List Field) (field : Field) : List ModelFault :=
  scope.nameFaults "field" field.name ++
    repeatedFaults (before.map Field.name) field.name
      (scope.repeated (.fieldRepeated field.name) field.name)

/-- The faults of a query and of its parameters. -/
def queryFaults (scope : Scope) (before : List Query) (query : Query) : List ModelFault :=
  scope.nameFaults "query" query.name ++
    repeatedFaults (before.map Query.name) query.name
      (scope.repeated (.queryRepeated query.name) query.name) ++
    query.parameters.flatMap fun parameter =>
      (scope.inside query.name).nameFaults "query parameter" parameter.name

/-- The faults of a unique constraint. -/
def constraintFaults (scope : Scope) (object : BusinessObject) (constraint : UniqueConstraint) :
    List ModelFault :=
  (if constraint.fields = [] then
    [scope.violation (.constraintEmpty constraint.name) constraint.name] else []) ++
    constraint.fields.flatMap fun field =>
      if field ∈ object.fields.map Field.name then []
      else [scope.violation (.constraintDangling constraint.name field) field]

/-- The faults of a business object: its name, its fields, its queries, its constraints. -/
def objectFaults (scope : Scope) (before : List BusinessObject) (object : BusinessObject) :
    List ModelFault :=
  let inner := scope.inside object.qualifiedName
  scope.qualifiedNameFaults object.qualifiedName "business object" ++
    repeatedFaults (before.map BusinessObject.qualifiedName) object.qualifiedName
      (scope.repeated (.objectRepeated object.qualifiedName) object.qualifiedName) ++
    faultsOfEach inner.fieldFaults object.fields ++
    faultsOfEach inner.queryFaults object.queries ++
    object.uniqueConstraints.flatMap (inner.constraintFaults object)

/-- A check whether a name was met before. -/
theorem repeated_eq_failFirst (taken : List String) (name : String) (fault : ModelFault) :
    (if taken.contains name then throw fault else pure () : Check) =
      failFirst (repeatedFaults taken name fault) := by
  unfold repeatedFaults
  by_cases met : name ∈ taken
  · simp only [List.contains_iff_mem, met, if_true]
    rfl
  · simp only [List.contains_iff_mem, met, if_false]
    rfl

theorem checkField_eq_failFirst (scope : Scope) (before : List Field) (field : Field) :
    scope.checkField before field = failFirst (scope.fieldFaults before field) := by
  rw [fieldFaults, failFirst_append, ← checkName_eq_failFirst, ← repeated_eq_failFirst]
  rfl

theorem checkQuery_eq_failFirst (scope : Scope) (before : List Query) (query : Query) :
    scope.checkQuery before query = failFirst (scope.queryFaults before query) := by
  rw [queryFaults, failFirst_append, failFirst_append, failFirst_flatMap,
    ← checkName_eq_failFirst, ← repeated_eq_failFirst]
  simp only [← checkName_eq_failFirst, checkQuery, bind_assoc]
  cases (before.map Query.name).contains query.name with
  | true => rfl
  | false => rfl

/-- Looking a field up finds one exactly if a field has the name. -/
theorem isNone_field?_iff {object : BusinessObject} {name : String} :
    (object.field? name).isNone = true ↔ name ∉ object.fields.map Field.name := by
  simp [BusinessObject.field?, List.find?_eq_none]

theorem checkConstraint_eq_failFirst (scope : Scope) (object : BusinessObject)
    (constraint : UniqueConstraint) :
    scope.checkConstraint object constraint =
      failFirst (scope.constraintFaults object constraint) := by
  have listed : ∀ field,
      (if (object.field? field).isNone then
        throw (scope.violation (.constraintDangling constraint.name field) field)
      else pure () : Check) =
        failFirst (if field ∈ object.fields.map Field.name then []
          else [scope.violation (.constraintDangling constraint.name field) field]) := by
    intro field
    by_cases declared : field ∈ object.fields.map Field.name
    · rw [if_neg (mt isNone_field?_iff.1 (not_not_intro declared)), if_pos declared]
      rfl
    · rw [if_pos (isNone_field?_iff.2 declared), if_neg declared]
      rfl
  unfold checkConstraint constraintFaults
  rw [failFirst_append, failFirst_flatMap]
  simp only [← listed]
  cases constraint.fields with
  | nil => rfl
  | cons field rest => rfl

theorem checkObject_eq_failFirst (scope : Scope) (before : List BusinessObject)
    (object : BusinessObject) :
    scope.checkObject before object = failFirst (scope.objectFaults before object) := by
  have constraints : (fun constraint =>
      (scope.inside object.qualifiedName).checkConstraint object constraint) = fun constraint =>
        failFirst ((scope.inside object.qualifiedName).constraintFaults object constraint) :=
    funext fun constraint => checkConstraint_eq_failFirst _ object constraint
  simp only [objectFaults, failFirst_append, failFirst_flatMap, ← constraints,
    ← checkQualifiedName_eq_failFirst, ← repeated_eq_failFirst,
    ← checkEach_nil_eq_failFirst (checkField_eq_failFirst _),
    ← checkEach_nil_eq_failFirst (checkQuery_eq_failFirst _), bind_assoc, checkObject]
  cases (before.map BusinessObject.qualifiedName).contains object.qualifiedName with
  | true => rfl
  | false => rfl

end Scope

/-! ## Sources -/

/-- Everything that is wrong with the business objects of a source, in the order of the rules. -/
def violations (source : Source) (objects : List BusinessObject) : List ModelFault :=
  faultsOfEach (Scope.top source).objectFaults objects

/-- The rules fail with the first violation. -/
theorem checkObjects_eq_failFirst (source : Source) (objects : List BusinessObject) :
    checkObjects source objects = failFirst (violations source objects) :=
  checkEach_nil_eq_failFirst (Scope.checkObject_eq_failFirst _) objects

/-! ## What violations are about -/

/-- The name that breaks the rule. -/
def Violation.subject? : Violation → Option String
  | .objectRepeated object => some object
  | .fieldRepeated field => some field
  | .queryRepeated query => some query
  | .constraintEmpty constraint => some constraint
  | .constraintDangling _ field => some field
  | .stated _ => none

/-- The name that a fault is about. -/
def ModelFault.subject? : ModelFault → Option String
  | .invalid _ _ violation => violation.subject?
  | .reservedKeyword _ _ name _ => some name
  | .invalidIdentifier _ _ name _ _ => some name
  | .unreadable _ | .malformed _ _ | .duplicateObject _ => none

/-- A fault that is raised in a source, about the name whose place it gives. -/
inductive RaisedIn (source : Source) : ModelFault → Prop where
  | violation (path : List String) {violation : Violation} {name : String}
      (about : violation.subject? = some name) :
      RaisedIn source (Scope.violation ⟨source, path⟩ violation name)
  | repeated (path : List String) {violation : Violation} {name : String}
      (about : violation.subject? = some name) :
      RaisedIn source (Scope.repeated ⟨source, path⟩ violation name)
  | keyword (path : List String) (name kind : String) :
      RaisedIn source (Scope.keyword ⟨source, path⟩ name kind)
  | badName (path : List String) (name kind : String) (cause : NameFault) :
      RaisedIn source (Scope.badName ⟨source, path⟩ name kind cause)

theorem RaisedIn.source?_eq {source : Source} {fault : ModelFault}
    (raised : RaisedIn source fault) : fault.source? = some source := by
  cases raised with
  | violation path about => rfl
  | repeated path about => rfl
  | keyword path name kind => rfl
  | badName path name kind cause => rfl

namespace Scope

variable {scope : Scope} {fault : ModelFault}

theorem raised_of_mem_wordFaults {name word whole kind : String}
    (mem : fault ∈ wordFaults name (scope.keyword word kind) (scope.badName whole kind)) :
    RaisedIn scope.source fault := by
  rcases List.mem_append.1 mem with reserved | odd
  · split at reserved
    · rw [List.mem_singleton.1 reserved]
      exact .keyword scope.path word kind
    · exact absurd reserved List.not_mem_nil
  · obtain ⟨cause, -, rfl⟩ := List.mem_map.1 odd
    exact .badName scope.path whole kind _

theorem raised_of_mem_qualifiedNameFaults {qualifiedName kind : String}
    (mem : fault ∈ scope.qualifiedNameFaults qualifiedName kind) :
    RaisedIn scope.source fault := by
  rcases List.mem_append.1 mem with bare | odd
  · split at bare
    · exact absurd bare List.not_mem_nil
    · rw [List.mem_singleton.1 bare]
      exact .badName scope.path qualifiedName kind _
  · obtain ⟨segment, -, here⟩ := List.mem_flatMap.1 odd
    exact raised_of_mem_wordFaults here

theorem raised_of_mem_repeatedFaults {taken : List String} {name : String} {violation : Violation}
    (about : violation.subject? = some name)
    (mem : fault ∈ repeatedFaults taken name (scope.repeated violation name)) :
    RaisedIn scope.source fault := by
  unfold repeatedFaults at mem
  split at mem
  · rw [List.mem_singleton.1 mem]
    exact .repeated scope.path about
  · exact absurd mem List.not_mem_nil

theorem raised_of_mem_fieldFaults {before : List Field} {field : Field}
    (mem : fault ∈ scope.fieldFaults before field) : RaisedIn scope.source fault := by
  rcases List.mem_append.1 mem with named | again
  · exact raised_of_mem_wordFaults named
  · exact raised_of_mem_repeatedFaults rfl again

theorem raised_of_mem_queryFaults {before : List Query} {query : Query}
    (mem : fault ∈ scope.queryFaults before query) : RaisedIn scope.source fault := by
  rcases List.mem_append.1 mem with first | inner
  · rcases List.mem_append.1 first with named | again
    · exact raised_of_mem_wordFaults named
    · exact raised_of_mem_repeatedFaults rfl again
  · obtain ⟨parameter, -, here⟩ := List.mem_flatMap.1 inner
    have inner : RaisedIn (scope.inside query.name).source fault := raised_of_mem_wordFaults here
    exact inner

theorem raised_of_mem_constraintFaults {object : BusinessObject} {constraint : UniqueConstraint}
    (mem : fault ∈ scope.constraintFaults object constraint) : RaisedIn scope.source fault := by
  rcases List.mem_append.1 mem with empty | dangling
  · split at empty
    · rw [List.mem_singleton.1 empty]
      exact .violation scope.path rfl
    · exact absurd empty List.not_mem_nil
  · obtain ⟨name, -, here⟩ := List.mem_flatMap.1 dangling
    split at here
    · exact absurd here List.not_mem_nil
    · rw [List.mem_singleton.1 here]
      exact .violation scope.path rfl

end Scope

/-- A fault of some item is one of it together with the items before it. -/
theorem exists_of_mem_faultsOfEach {faultsOf : List α → α → List ModelFault} {items : List α}
    {fault : ModelFault} (mem : fault ∈ faultsOfEach faultsOf items) :
    ∃ before item, fault ∈ faultsOf before item := by
  obtain ⟨entry, -, here⟩ := List.mem_flatMap.1 mem
  exact ⟨_, _, here⟩

theorem Scope.raised_of_mem_objectFaults {scope : Scope} {before : List BusinessObject}
    {object : BusinessObject} {fault : ModelFault} (mem : fault ∈ scope.objectFaults before object) :
    RaisedIn scope.source fault := by
  have inside : RaisedIn (scope.inside object.qualifiedName).source fault →
      RaisedIn scope.source fault := id
  simp only [objectFaults, List.mem_append, or_assoc] at mem
  rcases mem with named | again | field | query | constraint
  · exact raised_of_mem_qualifiedNameFaults named
  · exact raised_of_mem_repeatedFaults rfl again
  · obtain ⟨earlier, item, here⟩ := exists_of_mem_faultsOfEach field
    exact inside (raised_of_mem_fieldFaults here)
  · obtain ⟨earlier, item, here⟩ := exists_of_mem_faultsOfEach query
    exact inside (raised_of_mem_queryFaults here)
  · obtain ⟨item, -, here⟩ := List.mem_flatMap.1 constraint
    exact inside (raised_of_mem_constraintFaults here)

/-- Every violation is raised in the source. -/
theorem raised_of_mem_violations {source : Source} {objects : List BusinessObject}
    {fault : ModelFault} (mem : fault ∈ violations source objects) : RaisedIn source fault := by
  obtain ⟨before, object, here⟩ := exists_of_mem_faultsOfEach mem
  exact Scope.raised_of_mem_objectFaults here

/-- Every violation lies in the source. -/
theorem source?_of_mem_violations {source : Source} {objects : List BusinessObject}
    {fault : ModelFault} (mem : fault ∈ violations source objects) :
    fault.source? = some source :=
  (raised_of_mem_violations mem).source?_eq

end EntityGen.Model
