/-
  Model/Mismatch.lean --- values that do not fit.

  Source: the specification, section 7: whatever does not fit the format of a model file is
  fatal. The wording is that of the reader of TOML that the program uses.

  What is wrong with a well-formed source whose values do not make a model: a value of the
  wrong kind, a number out of range, a missing key, or a list with too few elements for the
  thing it stands for.

  The kinds are told apart as far as messages differ.
-/
import EntityGen.Model.FieldType
import EntityGen.Text.Quoted
import EntityGen.Text.Span

set_option autoImplicit false

namespace EntityGen.Model

open EntityGen.Text (Span)

/-- The kinds of things that a model is made of. -/
inductive Part where
  | businessObject
  | field
  | query
  /-- an input of a query -/
  | parameter
  | uniqueConstraint
  deriving DecidableEq, Repr, Inhabited

namespace Part

/-- The name of the kind in messages. -/
def label : Part → String
  | businessObject => "struct BusinessObject"
  | field => "struct Field"
  | query => "struct Query"
  | parameter => "struct QueryParameter"
  | uniqueConstraint => "struct UniqueConstraint"

/-- The number of values that make one. -/
def size : Part → Nat
  | businessObject => 5
  | field => 4
  | query => 4
  | parameter => 2
  | uniqueConstraint => 2

end Part

/-- What a source holds in place of something else. -/
inductive Found where
  | string (text : String)
  /-- a whole number -/
  | integer (value : Int)
  /-- a whole number too wide for sixty-four bits, with its width and sign -/
  | wideInteger (value : Int) (width : String)
  /-- a floating-point number, by its text -/
  | float (text : String)
  | boolean (value : Bool)
  /-- an array -/
  | sequence
  /-- a table, a date or a time -/
  | map
  deriving DecidableEq, Repr, Inhabited

/-- What was found, in words. -/
def Found.label : Found → String
  | .string text => "string " ++ Text.quoted text
  | .integer value => "integer \x60" ++ toString value ++ "\x60"
  | .wideInteger value width => "integer \x60" ++ toString value ++ "\x60 as " ++ width
  | .float text => "floating point \x60" ++ text ++ "\x60"
  | .boolean value => "boolean \x60" ++ (if value then "true" else "false") ++ "\x60"
  | .sequence => "sequence"
  | .map => "map"

/-- What a source should hold. -/
inductive Expected where
  | string
  | boolean
  /-- a number of thirty-two bits without a sign -/
  | length
  /-- a list -/
  | sequence
  /-- a part of the model -/
  | part (kind : Part)
  deriving DecidableEq, Repr, Inhabited

/-- What was expected, in words. -/
def Expected.label : Expected → String
  | .string => "a string"
  | .boolean => "a boolean"
  | .length => "u32"
  | .sequence => "a sequence"
  | .part kind => kind.label

/-- Why a value does not make a part of a model. -/
inductive MismatchCause where
  /-- a value of another kind -/
  | wrongKind (found : Found) (expected : Expected)
  /-- a whole number beyond what a length may be -/
  | outOfRange (value : Int)
  /-- a key that has to be there and is not -/
  | missingKey (key : String)
  /-- a list that ends before all values without a default are there -/
  | tooShort (present : Nat) (part : Part)
  /-- a name that is none of a field type -/
  | unknownType (name : String)
  /-- an integer that no width holds, be it too large or without a value -/
  | integerOverflow
  /-- a floating-point number beyond all numbers -/
  | floatOverflow
  deriving DecidableEq, Repr, Inhabited

/-- The cause in words. -/
def MismatchCause.message : MismatchCause → String
  | .wrongKind found expected => s!"invalid type: {found.label}, expected {expected.label}"
  | .outOfRange value =>
    s!"invalid value: {(Found.integer value).label}, expected {Expected.length.label}"
  | .missingKey key => "missing field \x60" ++ key ++ "\x60"
  | .tooShort present part =>
    s!"invalid length {present}, expected {part.label} with {part.size} elements"
  | .unknownType name => FieldType.unknownMessage name
  | .integerOverflow => "integer number overflowed"
  | .floatOverflow => "floating-point number overflowed"

/-- A cause and the text it lies in. -/
structure Mismatch where
  /-- What is wrong. -/
  cause : MismatchCause
  /-- Where. -/
  span : Span
  deriving DecidableEq, Repr, Inhabited

end EntityGen.Model
