/-
  Blueprint/Mapping.lean --- what a field type becomes.

  Source: the specification, section 4.1 (Type Mapper).

  The type of the member, and the tags that say how its column is made. The first tag is
  always that of a column with default settings, which the entity replaces by that of the
  field.

  The mapping is total: a field type is one of eight.
-/
import EntityGen.Blueprint.Tag
import EntityGen.Blueprint.TypeRef
import EntityGen.Model.Basic

set_option autoImplicit false

namespace EntityGen.Blueprint

open EntityGen.Model (FieldType)

/-- The built-in type of a field type. -/
def primitiveOf : FieldType → Primitive
  | .string => .string
  | .text => .string
  | .integer => .int
  | .long => .long
  | .double => .double
  | .float => .float
  | .boolean => .bool
  | .date => .dateTime

/-- The type of the member that holds a field; it admits nothing as a value. -/
def memberType (type : FieldType) : TypeRef :=
  .optional (.primitive (primitiveOf type))

/-- The tags that a field type needs besides that of its column. -/
def extraTags : FieldType → List Tag
  | .text => [.ofKind .lob]
  | .date => [(Tag.ofKind .temporal).setValue (.constant "TIMESTAMP")]
  | _ => []

/-- The tag of a column with default settings. -/
def defaultColumn (type : FieldType) : Tag :=
  let column := (Tag.ofKind .column).set "nullable" (.flag true)
  match type with
  | .string => column.set "length" (.number Model.defaultLength.toNat)
  | _ => column

/-- The member type and the tags of a field type. -/
structure Mapping where
  /-- The type of the member. -/
  type : TypeRef
  /-- The tags, that of the column first. -/
  tags : List Tag
  deriving Inhabited

/-- What a field type becomes. -/
def mapFieldType (type : FieldType) : Mapping :=
  ⟨memberType type, defaultColumn type :: extraTags type⟩

end EntityGen.Blueprint
