/-
  Blueprint/TypeRef.lean --- types of members.

  Source: the specification, section 4.1 (target types) and section 4.4 (results of
  finders).

  The types that fields, parameters and results of generated classes have, before they are
  written in a target language.

  A writer of types says how each constructor is written in a language; the walk over a type
  is the same for all of them.
-/

set_option autoImplicit false

namespace EntityGen.Blueprint

/-- A built-in type. -/
inductive Primitive where
  /-- text -/
  | string
  /-- a whole number -/
  | int
  /-- a whole number of double width -/
  | long
  /-- a floating-point number -/
  | float
  /-- a floating-point number of double width -/
  | double
  /-- true or false -/
  | bool
  /-- a moment in time -/
  | dateTime
  deriving DecidableEq, Repr, Inhabited

/-- The name of a built-in type. -/
def Primitive.label : Primitive → String
  | .string => "string"
  | .int => "int"
  | .long => "long"
  | .float => "float"
  | .double => "double"
  | .bool => "bool"
  | .dateTime => "datetime"

/-- The type of a member. -/
inductive TypeRef where
  /-- a built-in type -/
  | primitive (type : Primitive)
  /-- a type or nothing -/
  | optional (inner : TypeRef)
  /-- many values of a type -/
  | array (inner : TypeRef)
  /-- a type of this name -/
  | named (name : String)
  /-- no value -/
  | unit
  deriving DecidableEq, Repr, Inhabited

namespace TypeRef

/-- The type admits nothing as a value. -/
def isOptional : TypeRef → Bool
  | optional _ => true
  | _ => false

/-- The type has no value. -/
def isUnit : TypeRef → Bool
  | unit => true
  | _ => false

/-- The type that an optional or array type is made of. -/
def inner? : TypeRef → Option TypeRef
  | optional inner => some inner
  | array inner => some inner
  | _ => none

end TypeRef

/-! ## Writing types -/

/-- How a language writes types. Writing may change a state, such as the names that a file imports.
-/
structure TypeWriter (σ : Type) where
  /-- A built-in type. -/
  primitive : Primitive → StateM σ String
  /-- A built-in type that admits nothing as a value. -/
  optionalPrimitive : Primitive → StateM σ String
  /-- Many values of a type, given the text of that type. -/
  array : String → StateM σ String
  /-- A type of this name. -/
  named : String → StateM σ String
  /-- No value. -/
  unit : StateM σ String

/-- The text of a type. An optional type other than a built-in one is written as the type itself. -/
def TypeWriter.write {σ : Type} (writer : TypeWriter σ) : TypeRef → StateM σ String
  | .primitive type => writer.primitive type
  | .optional (.primitive type) => writer.optionalPrimitive type
  | .optional inner => writer.write inner
  | .array inner => do writer.array (← writer.write inner)
  | .named name => writer.named name
  | .unit => writer.unit

/-- A writer that names built-in types as they are, writes an optional type as the type itself, an
array in brackets, and names unchanged. -/
def TypeWriter.plain : TypeWriter Unit where
  primitive type := return type.label
  optionalPrimitive type := return type.label
  array inner := return "[" ++ inner ++ "]"
  named name := return name
  unit := return "unit"

end EntityGen.Blueprint
