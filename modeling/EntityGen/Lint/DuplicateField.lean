/-
  Lint/DuplicateField.lean --- fields with the same accessors.

  Source: the specification, section 7 (duplicate field names) and section 4.2 (the two
  fields that every entity has).

  Two fields of an object, or a field of it and one that every entity has, whose names are
  the same but for the case of the first letter.
-/
import EntityGen.Blueprint.Entity
import EntityGen.Lint.Basic

set_option autoImplicit false

namespace EntityGen.Lint

open EntityGen.Model (BusinessObject Field)

namespace DuplicateField

/-- The name that findings carry. -/
def name : String := "duplicate-field"

/-- The fields that every entity has. -/
def generatedFields : List String :=
  [Blueprint.persistenceId, Blueprint.persistenceVersion]

/-- The finding of a field that clashes with one that every entity has. -/
def clash (field generated location : String) : Diagnostic :=
  ⟨.error, name, s!"field '{field}' clashes with the generated '{generated}' field", some location⟩

/-- The finding of a field with the accessors of an earlier one. -/
def repeated (first field location : String) : Diagnostic :=
  let message :=
    if first == field then s!"field '{field}' is declared more than once"
    else s!"fields '{first}' and '{field}' generate the same accessors"
  ⟨.error, name, message, some location⟩

/-- The findings in a list of fields, given the earlier names with pairwise distinct accessors. A
field that clashes is not remembered. -/
def clashes (object : BusinessObject) (earlier : List String) : List Field → List Diagnostic
  | [] => []
  | field :: rest =>
    let location := s!"{object.qualifiedName}.fields.{field.name}"
    let sameAccessors := fun other => Text.capitalize other == Text.capitalize field.name
    match generatedFields.find? sameAccessors with
    | some generated => clash field.name generated location :: clashes object earlier rest
    | none =>
      match earlier.find? sameAccessors with
      | some first => repeated first field.name location :: clashes object earlier rest
      | none => clashes object (earlier ++ [field.name]) rest

/-- The findings in a business object. -/
def check (object : BusinessObject) : List Diagnostic :=
  clashes object [] object.fields

end DuplicateField

/-- Fields with the same accessors. -/
def duplicateField : Lint :=
  .perObject DuplicateField.name "Detect fields with the same name or the same accessors"
    DuplicateField.check

end EntityGen.Lint
