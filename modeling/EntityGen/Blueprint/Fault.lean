/-
  Blueprint/Fault.lean --- why an object makes no class.

  Source: the specification, section 4.2 (names that cannot be generated) and section 7
  (taxonomy).

  The faults with their wording, and the rules for the names of generated types.

  The lists of reserved names are complete as they stand here. The specification ends its
  own list with an ellipsis.
-/
import EntityGen.Naming

set_option autoImplicit false

namespace EntityGen.Blueprint

/-! ## Causes -/

/-- Why no type can be generated under a dotted name. -/
inductive TypeNameFault where
  /-- there is nothing before the last dot -/
  | noPackage
  /-- the name lies in a package of the platform -/
  | reservedPackage
  /-- the simple name is that of a built-in type -/
  | builtIn (simpleName : String)
  deriving DecidableEq, Repr, Inhabited

/-- The fault in words. -/
def TypeNameFault.reason : TypeNameFault → String
  | .noPackage => "a package is required"
  | .reservedPackage => "the java and javax packages are reserved"
  | .builtIn simpleName => s!"'{simpleName}' collides with a built-in type"

/-- Why a class or a program cannot be made. -/
inductive ClassFault where
  /-- no type can have this name -/
  | invalidQualifiedName (name : String) (fault : TypeNameFault)
  /-- two methods have one name -/
  | duplicateDaoMethod (dao method : String)
  /-- two parameters of a method have one name -/
  | duplicateParameter (dao method parameter : String)
  /-- a unique constraint lists a field that the object does not have -/
  | unknownConstraintField (businessObject constraint field : String)
  /-- two classes have one name -/
  | duplicateClass (name : String)
  deriving DecidableEq, Repr, Inhabited

/-- The fault in words. -/
def ClassFault.message : ClassFault → String
  | .invalidQualifiedName name fault => s!"invalid qualified name '{name}': {fault.reason}"
  | .duplicateDaoMethod dao method => s!"DAO '{dao}' declares method '{method}' more than once"
  | .duplicateParameter dao method parameter =>
    s!"method '{method}' of DAO '{dao}' declares parameter '{parameter}' more than once"
  | .unknownConstraintField businessObject constraint field =>
    s!"unique constraint '{constraint}' on '{businessObject}' references unknown field '{field}'"
  | .duplicateClass name => s!"type '{name}' is generated more than once"

/-! ## Names of generated types -/

/-- Simple names that generated code uses for other types. -/
def reservedSimpleNames : List String := [
  "Boolean", "Class", "Collection", "Date", "Double", "Entity", "Float", "Integer", "List", "Long",
  "Object", "Objects", "Override", "String"]

/-- Beginnings of dotted names in packages of the platform. -/
def reservedBeginnings : List String :=
  ["java.", "javax."]

/-- What is wrong with a dotted name as that of a generated type. -/
def typeNameFault? (qualifiedName : String) : Option TypeNameFault :=
  if (Naming.namespaceOf qualifiedName).isEmpty then some .noPackage
  else if reservedBeginnings.any fun start =>
      start.toList.isPrefixOf qualifiedName.toList then some .reservedPackage
  else if reservedSimpleNames.contains (Naming.simpleNameOf qualifiedName) then
    some (.builtIn (Naming.simpleNameOf qualifiedName))
  else none

/-- A generated type has to have a name that is free. -/
def checkTypeName (qualifiedName : String) : Except ClassFault Unit :=
  match typeNameFault? qualifiedName with
  | some fault => .error (.invalidQualifiedName qualifiedName fault)
  | none => .ok ()

end EntityGen.Blueprint
