/-
  Lint/Identifier.lean --- names that are no identifiers.

  Source: the specification, section 7 (invalid Java identifiers, Java keywords).

  Names of fields, queries and parameters that are no identifiers, and fields whose
  accessors would replace methods that every object has.

  The name of the object itself and the classes of query parameters are not looked at here.
  Results of queries are looked at by `Lint/QueryReturnType.lean` only.
-/
import EntityGen.Java.Identifier
import EntityGen.Lint.Basic

set_option autoImplicit false

namespace EntityGen.Lint

open EntityGen.Model (BusinessObject Field Query)

namespace Identifier

/-- The name that findings carry. -/
def name : String := "identifier"

/-- The methods without parameters that every object has. -/
def objectMethods : List String :=
  ["clone", "finalize", "getClass", "hashCode", "notify", "notifyAll", "toString", "wait"]

/-- The finding of a name that is no identifier. -/
def checkName (member kind location : String) : List Diagnostic :=
  match Java.identifierFault? member with
  | some fault =>
    [⟨.error, name, s!"{kind} '{member}' is not a valid Java identifier: {fault.reason}",
      some location⟩]
  | none => []

/-- The finding of an accessor that every object has. -/
def checkAccessors (field : Field) (location : String) : List Diagnostic :=
  let accessors := [Naming.getterName field.name field.type, Naming.setterName field.name]
  match accessors.find? objectMethods.contains with
  | some accessor =>
    [⟨.error, name,
      s!"field '{field.name}' generates accessor '{accessor}', which clashes with " ++
        s!"Object.{accessor}()",
      some location⟩]
  | none => []

/-- The findings in a field. Accessors are looked at only if the name is an identifier. -/
def checkField (object : BusinessObject) (field : Field) : List Diagnostic :=
  let location := s!"{object.qualifiedName}.fields.{field.name}"
  match checkName field.name "field" location with
  | [] => checkAccessors field location
  | findings => findings

/-- The findings in a query and its parameters. -/
def checkQuery (object : BusinessObject) (query : Query) : List Diagnostic :=
  let location := s!"{object.qualifiedName}.queries.{query.name}"
  checkName query.name "query" location ++
    query.parameters.flatMap fun parameter =>
      checkName parameter.name "query parameter" s!"{location}.{parameter.name}"

/-- The findings in a business object. -/
def check (object : BusinessObject) : List Diagnostic :=
  object.fields.flatMap (checkField object) ++ object.queries.flatMap (checkQuery object)

end Identifier

/-- Names that are no identifiers, and accessors that every object has. -/
def identifier : Lint :=
  .perObject Identifier.name
    "Reject keywords, invalid identifiers and accessors clashing with Object" Identifier.check

end EntityGen.Lint
