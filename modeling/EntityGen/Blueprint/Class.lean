/-
  Blueprint/Class.lean --- classes before they are written.

  Source: the specification, section 3 (Program): class and interface nodes with fields,
  methods, tags and capability markers.

  Fields, methods with bodies by meaning, tags, and the interfaces that are implemented.

  Bodies of methods are kept by meaning and not as text: the writer of a language decides
  what they look like.
-/
import EntityGen.Blueprint.Tag
import EntityGen.Blueprint.TypeRef
import EntityGen.Naming

set_option autoImplicit false

namespace EntityGen.Blueprint

/-- Who may use a declaration. -/
inductive Visibility where
  | everyone
  /-- the declaring class only -/
  | classOnly
  deriving DecidableEq, Repr, Inhabited

/-! ## Members -/

/-- What a method does. -/
inductive Body where
  /-- nothing is said -/
  | abstract
  /-- it answers a field -/
  | getter (field : String)
  /-- it stores a parameter in a field -/
  | setter (field parameter : String)
  /-- it compares an object by these fields -/
  | equals (fields : List String)
  /-- it hashes these fields -/
  | hashCode (fields : List String)
  deriving DecidableEq, Repr, Inhabited

/-- A parameter of a method. -/
structure MethodParameter where
  name : String
  type : TypeRef
  deriving DecidableEq, Repr, Inhabited

/-- A method. -/
structure Method where
  name : String
  /-- What it does, in words. -/
  doc : Option String := none
  parameters : List MethodParameter := []
  result : TypeRef := .unit
  /-- What it does. -/
  body : Body := .abstract
  /-- The metadata. -/
  tags : List Tag := []
  /-- Who may call it. -/
  visibility : Visibility := .everyone
  deriving Inhabited

namespace Method

/-- Nothing is said about what the method does. -/
def isAbstract (method : Method) : Bool :=
  method.body == .abstract

/-- The names of the parameters. -/
def parameterNames (method : Method) : List String :=
  method.parameters.map MethodParameter.name

end Method

/-- A field. -/
structure Member where
  name : String
  type : TypeRef
  /-- The metadata. -/
  tags : List Tag := []
  /-- Who may see it. -/
  visibility : Visibility := .classOnly
  deriving Inhabited

/-! ## Classes -/

/-- Whether methods have bodies. -/
inductive ClassKind where
  /-- they do -/
  | concrete
  /-- they do not -/
  | interface
  deriving DecidableEq, Repr, Inhabited

/-- A class or an interface. -/
structure ClassSpec where
  /-- The dotted name. -/
  qualifiedName : String
  /-- Whether it is a class or an interface. -/
  kind : ClassKind := .concrete
  /-- What it is, in words. -/
  doc : Option String := none
  /-- The metadata. -/
  tags : List Tag := []
  /-- The dotted names of the interfaces that it has. -/
  interfaces : List String := []
  fields : List Member := []
  methods : List Method := []
  /-- Who may use it. -/
  visibility : Visibility := .everyone
  deriving Inhabited

namespace ClassSpec

/-- The part of the name before its last dot. -/
def packageName (spec : ClassSpec) : String :=
  Naming.namespaceOf spec.qualifiedName

/-- The part of the name after its last dot. -/
def simpleName (spec : ClassSpec) : String :=
  Naming.simpleNameOf spec.qualifiedName

/-- Methods have no bodies. -/
def isInterface (spec : ClassSpec) : Bool :=
  spec.kind == .interface

/-- The number of tags of a kind. -/
def countTags (spec : ClassSpec) (kind : TagKind) : Nat :=
  spec.tags.countP fun tag => tag.kind == kind

/-- The first field of this name. -/
def field? (spec : ClassSpec) (name : String) : Option Member :=
  spec.fields.find? fun field => field.name == name

/-- The first method of this name. -/
def method? (spec : ClassSpec) (name : String) : Option Method :=
  spec.methods.find? fun method => method.name == name

/-- The class without anything about how objects are stored: neither tags nor interfaces. -/
def withoutPersistence (spec : ClassSpec) : ClassSpec :=
  { spec with
    tags := Blueprint.withoutPersistence spec.tags
    interfaces := []
    fields := spec.fields.map fun field =>
      { field with tags := Blueprint.withoutPersistence field.tags }
    methods := spec.methods.map fun method =>
      { method with tags := Blueprint.withoutPersistence method.tags } }

end ClassSpec

end EntityGen.Blueprint
