/-
  Model/Rules.lean --- what a source has to obey.

  Source: the specification, section 7 (taxonomy, model validation): repeated names, names
  that are no Java identifiers, constraints on fields that are not declared.

  What the business objects of a source have to obey before they make a model. The objects
  are looked at one after the other: the name, whether it was met before, the fields, the
  queries with their parameters, the unique constraints. The first rule that is broken is
  the fault.

  Every rule is a walk that stops at its first fault. All violations of a source, and not
  only the first, are listed in `Proofs/Model/Violations.lean`.
-/
import EntityGen.Model.Basic
import EntityGen.Model.Fault

set_option autoImplicit false

namespace EntityGen.Model

/-- A check of a part of a model. -/
abbrev Check : Type := Except ModelFault Unit

namespace Scope

/-! ## Faults in a scope -/

/-- The fault of a violation that a name shows, pointing at its first place. -/
def violation (scope : Scope) (violation : Violation) (name : String) : ModelFault :=
  .invalid scope.source (scope.firstPlace name) violation

/-- The fault of a repeated name, pointing at its last place. -/
def repeated (scope : Scope) (violation : Violation) (name : String) : ModelFault :=
  .invalid scope.source (scope.lastPlace name) violation

/-- The fault of a name that is a reserved word. -/
def keyword (scope : Scope) (name kind : String) : ModelFault :=
  .reservedKeyword scope.source (scope.firstPlace name) name (scope.describe kind)

/-- The fault of a name that is no identifier. -/
def badName (scope : Scope) (name kind : String) (fault : NameFault) : ModelFault :=
  .invalidIdentifier scope.source (scope.firstPlace name) name (scope.describe kind) fault

/-! ## Names -/

/-- A name has to be an identifier. -/
def checkName (scope : Scope) (name kind : String) : Check :=
  if Java.isKeyword name then .error (scope.keyword name kind)
  else
    match Java.identifierFault? name with
    | some fault => .error (scope.badName name kind (.notIdentifier fault))
    | none => .ok ()

/-- One part of a dotted name has to be an identifier; the fault of a part that is a reserved word
names the part, any other the whole name. -/
def checkSegment (scope : Scope) (qualifiedName kind segment : String) : Check :=
  if Java.isKeyword segment then .error (scope.keyword segment kind)
  else
    match Java.identifierFault? segment with
    | some fault => .error (scope.badName qualifiedName kind (.notIdentifier fault))
    | none => .ok ()

/-- A dotted name has to have a package, and every part of it to be an identifier. -/
def checkQualifiedName (scope : Scope) (qualifiedName kind : String) : Check :=
  if qualifiedName.toList.contains '.' then
    (Text.split '.' qualifiedName).forM (scope.checkSegment qualifiedName kind)
  else .error (scope.badName qualifiedName kind .noPackage)

/-! ## Parts of business objects -/

/-- Checks items one after the other, giving each check the items before it. -/
def checkEach {α : Type} (check : List α → α → Check) : List α → List α → Check
  | _, [] => .ok ()
  | before, item :: rest => do
    check before item
    checkEach check (before ++ [item]) rest

/-- A field has to have a name of its own. -/
def checkField (scope : Scope) (before : List Field) (field : Field) : Check := do
  scope.checkName field.name "field"
  if (before.map Field.name).contains field.name then
    throw (scope.repeated (.fieldRepeated field.name) field.name)

/-- A query has to have a name of its own, and its parameters have to be identifiers. -/
def checkQuery (scope : Scope) (before : List Query) (query : Query) : Check := do
  scope.checkName query.name "query"
  if (before.map Query.name).contains query.name then
    throw (scope.repeated (.queryRepeated query.name) query.name)
  query.parameters.forM fun parameter =>
    (scope.inside query.name).checkName parameter.name "query parameter"

/-- A unique constraint has to list fields, all of them declared. -/
def checkConstraint (scope : Scope) (object : BusinessObject) (constraint : UniqueConstraint) :
    Check := do
  if constraint.fields.isEmpty then
    throw (scope.violation (.constraintEmpty constraint.name) constraint.name)
  constraint.fields.forM fun field =>
    if (object.field? field).isNone then
      throw (scope.violation (.constraintDangling constraint.name field) field)
    else pure ()

/-- The parts of a business object have to obey their rules. -/
def checkParts (scope : Scope) (object : BusinessObject) : Check := do
  checkEach scope.checkField [] object.fields
  checkEach scope.checkQuery [] object.queries
  object.uniqueConstraints.forM (scope.checkConstraint object)

/-! ## Business objects -/

/-- A business object has to have a name of its own, and its parts to obey their rules. -/
def checkObject (scope : Scope) (before : List BusinessObject) (object : BusinessObject) :
    Check := do
  scope.checkQualifiedName object.qualifiedName "business object"
  if (before.map BusinessObject.qualifiedName).contains object.qualifiedName then
    throw (scope.repeated (.objectRepeated object.qualifiedName) object.qualifiedName)
  (scope.inside object.qualifiedName).checkParts object

end Scope

/-- The business objects of a source have to obey the rules. -/
def checkObjects (source : Source) (objects : List BusinessObject) : Check :=
  Scope.checkEach (Scope.top source).checkObject [] objects

end EntityGen.Model
