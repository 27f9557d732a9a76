/-
  Model/FieldType.lean --- the types of fields.

  Source: the specification, section 3 (Field) and section 4.1: the eight types, and the
  refusal of any other name.

  The types that a model may give to a field. They belong to no target language; a model
  names them in capitals, and reading a name does not mind the case of its ASCII letters.
-/
import EntityGen.Text.Case

set_option autoImplicit false

namespace EntityGen.Model

/-- The type of a field. -/
inductive FieldType where
  /-- text of bounded length -/
  | string
  /-- text of any length -/
  | text
  /-- a whole number -/
  | integer
  /-- a whole number of double width -/
  | long
  /-- a floating-point number of double width -/
  | double
  /-- a floating-point number -/
  | float
  /-- true or false -/
  | boolean
  /-- a moment in time -/
  | date
  deriving DecidableEq, Repr, Inhabited

namespace FieldType

/-- Every field type. -/
def all : List FieldType :=
  [string, text, integer, long, double, float, boolean, date]

/-- The name of the type in a model. -/
def label : FieldType → String
  | string => "STRING"
  | text => "TEXT"
  | integer => "INTEGER"
  | long => "LONG"
  | double => "DOUBLE"
  | float => "FLOAT"
  | boolean => "BOOLEAN"
  | date => "DATE"

/-- The type of a name, whatever the case of its ASCII letters. -/
def ofLabel? (name : String) : Option FieldType :=
  all.find? fun type => type.label.toList == name.toList.map Char.toUpper

/-- The message for a name that is none of a field type. -/
def unknownMessage (name : String) : String :=
  s!"unknown field type '{name}', expected one of " ++
    "STRING, TEXT, INTEGER, LONG, DOUBLE, FLOAT, BOOLEAN, DATE"

end FieldType

end EntityGen.Model
