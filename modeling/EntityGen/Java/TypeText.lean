/-
  Java/TypeText.lean --- types of members.

  Source: the specification, section 4.1 (target types) and section 4.4 (`List` of the
  simple name).

  How the types of members are written in Java. Optional numbers and booleans are written by
  their reference types, many values as a list, and no value as `void`.
-/
import EntityGen.Blueprint.TypeRef
import EntityGen.Java.Resolver

set_option autoImplicit false

namespace EntityGen.Java

open EntityGen.Blueprint (Primitive TypeRef TypeWriter)

/-- A built-in type that has a value. -/
def plainPrimitive : Primitive → StateM Resolver String
  | .string => Resolver.resolve "java.lang.String"
  | .int => return "int"
  | .long => return "long"
  | .float => return "float"
  | .double => return "double"
  | .bool => return "boolean"
  | .dateTime => Resolver.resolve "java.util.Date"

/-- A built-in type that may have no value. -/
def boxedPrimitive : Primitive → StateM Resolver String
  | .int => Resolver.resolve "java.lang.Integer"
  | .long => Resolver.resolve "java.lang.Long"
  | .float => Resolver.resolve "java.lang.Float"
  | .double => Resolver.resolve "java.lang.Double"
  | .bool => Resolver.resolve "java.lang.Boolean"
  | .string => plainPrimitive .string
  | .dateTime => plainPrimitive .dateTime

/-- The list type of these elements. -/
def listOf (element : String) : StateM Resolver String := do
  let list ← Resolver.resolve "java.util.List"
  return list ++ "<" ++ element ++ ">"

/-- How Java writes types. -/
def typeWriter : TypeWriter Resolver where
  primitive := plainPrimitive
  optionalPrimitive := boxedPrimitive
  array := listOf
  named := Resolver.resolve
  unit := return "void"

/-- The text of a type. -/
def typeText (type : TypeRef) : StateM Resolver String :=
  typeWriter.write type

end EntityGen.Java
