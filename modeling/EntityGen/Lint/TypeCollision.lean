/-
  Lint/TypeCollision.lean --- generated types of one name.

  Source: the specification, section 4.5: one file for each type, below directories named
  after its namespace.

  Generated types whose names are the same but for letter case, and that would therefore
  share a source file on some systems.

  Names are compared as dotted names in lower case, not as paths.
-/
import EntityGen.Blueprint.Dao
import EntityGen.Lint.Basic

set_option autoImplicit false

namespace EntityGen.Lint

open EntityGen.Model (BusinessObject DataModel)

namespace TypeCollision

/-- The name that findings carry. -/
def name : String := "type-collision"

/-- A type that is generated, and the business object that it is generated for. -/
structure GeneratedType where
  /-- The dotted name of the type. -/
  name : String
  /-- The dotted name of the business object. -/
  owner : String
  deriving DecidableEq, Repr, Inhabited

/-- The types that are generated for a business object. -/
def typesOf (object : BusinessObject) : List GeneratedType :=
  [⟨object.qualifiedName, object.qualifiedName⟩,
   ⟨Blueprint.daoName object, object.qualifiedName⟩]

/-- The findings in a list of types, given the earlier types with pairwise distinct names. A type
that collides is reported against the first of its name and not remembered. -/
def collisions (earlier : List GeneratedType) : List GeneratedType → List Diagnostic
  | [] => []
  | type :: rest =>
    match earlier.find? fun first => Text.lower first.name == Text.lower type.name with
    | some first =>
      ⟨.error, name, s!"generated type '{type.name}' collides with '{first.name}'",
        some type.owner⟩ :: collisions earlier rest
    | none => collisions (earlier ++ [type]) rest

/-- The findings in a model. -/
def check (model : DataModel) : List Diagnostic :=
  collisions [] (model.objects.flatMap typesOf)

end TypeCollision

/-- Names of generated types that differ by letter case only. -/
def typeCollision : Lint :=
  ⟨TypeCollision.name, "Detect generated types whose names differ only by case",
    TypeCollision.check⟩

end EntityGen.Lint
