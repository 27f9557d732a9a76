/-
  Lint/ReservedName.lean --- names that cannot be generated.

  Source: the specification, section 4.2 (reserved built-in types and simple names)
  and section 7.

  Business objects whose names no generated type can have.
-/
import EntityGen.Blueprint.Fault
import EntityGen.Lint.Basic

set_option autoImplicit false

namespace EntityGen.Lint

open EntityGen.Model (BusinessObject)

namespace ReservedName

/-- The name that findings carry. -/
def name : String := "reserved-name"

/-- The findings in a business object. -/
def check (object : BusinessObject) : List Diagnostic :=
  match Blueprint.checkTypeName object.qualifiedName with
  | .ok () => []
  | .error fault => [⟨.error, name, fault.message, some object.qualifiedName⟩]

end ReservedName

/-- Names that are unqualified, reserved or taken by built-in types. -/
def reservedName : Lint :=
  .perObject ReservedName.name "Reject unqualified names and names of built-in types"
    ReservedName.check

end EntityGen.Lint
