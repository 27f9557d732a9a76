/-
  Naming.lean --- names that follow from other names.

  Source: the specification, section 3 (`namespace()` and `simple_name()`, capitalized
  accessor names) and section 4.2 (upper-cased names of tables and columns).

  The parts of a dotted name, the accessors of a field, and the names of columns and tables.
  Accessors are named in one place because the entity, the lints and the access interface
  have to agree on them.
-/
import EntityGen.Model.FieldType
import EntityGen.Text.Pieces

set_option autoImplicit false

namespace EntityGen.Naming

open EntityGen.Model (FieldType)

/-! ## Dotted names -/

/-- Everything before the last dot of a dotted name; empty without a dot. -/
def namespaceOf (qualifiedName : String) : String :=
  match Text.cutAtLast '.' qualifiedName.toList with
  | some (before, _) => String.ofList before
  | none => ""

/-- Everything after the last dot of a dotted name; the whole name without a dot. -/
def simpleNameOf (qualifiedName : String) : String :=
  match Text.cutAtLast '.' qualifiedName.toList with
  | some (_, after) => String.ofList after
  | none => qualifiedName

/-! ## Members and columns -/

/-- The name of a column or a table. -/
def columnName (name : String) : String :=
  Text.upper name

/-- The name of the method that reads a field. -/
def getterName (field : String) (type : FieldType) : String :=
  (if type = .boolean then "is" else "get") ++ Text.capitalize field

/-- The name of the method that writes a field. -/
def setterName (field : String) : String :=
  "set" ++ Text.capitalize field

end EntityGen.Naming
