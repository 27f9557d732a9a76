/-
  Lint/UniqueConstraint.lean --- unique constraints.

  Source: the specification, section 3 (member fields belong to the same object)
  and section 7 (unique constraint on undeclared field).

  Constraints with one name, without fields, or with fields that the object does not have.
-/
import EntityGen.Lint.Basic

set_option autoImplicit false

namespace EntityGen.Lint

open EntityGen.Model (BusinessObject)

namespace UniqueConstraint

/-- The name that findings carry. -/
def name : String := "unique-constraint"

/-- The finding of a constraint. -/
def finding (message location : String) : Diagnostic :=
  ⟨.error, name, message, some location⟩

/-- The findings in one constraint, given the names of the earlier ones. -/
def checkOne (object : BusinessObject) (earlier : List String)
    (constraint : Model.UniqueConstraint) : List Diagnostic :=
  let location := s!"{object.qualifiedName}.unique_constraints.{constraint.name}"
  let repeated :=
    if earlier.contains constraint.name then
      [finding s!"unique constraint '{constraint.name}' is declared more than once" location]
    else []
  let empty :=
    if constraint.fields.isEmpty then
      [finding s!"unique constraint '{constraint.name}' has no fields" location]
    else []
  let dangling := constraint.fields.filter fun field => (object.field? field).isNone
  repeated ++ empty ++ dangling.map fun field =>
    finding s!"unique constraint '{constraint.name}' references unknown field '{field}'" location

/-- The findings in a list of constraints, given the names of the earlier ones. -/
def checkAll (object : BusinessObject) (earlier : List String) :
    List Model.UniqueConstraint → List Diagnostic
  | [] => []
  | constraint :: rest =>
    checkOne object earlier constraint ++ checkAll object (constraint.name :: earlier) rest

/-- The findings in a business object. -/
def check (object : BusinessObject) : List Diagnostic :=
  checkAll object [] object.uniqueConstraints

end UniqueConstraint

/-- Constraints with one name, without fields, or with unknown fields. -/
def uniqueConstraint : Lint :=
  .perObject UniqueConstraint.name "Check unique constraints reference declared fields"
    UniqueConstraint.check

end EntityGen.Lint
