/-
  Java/Resolver.lean --- type names in a file.

  Source: the specification, section 4.3 (`java.lang.String` renders as `String`, other
  packages are imported), and the scoping of simple names in Java.

  How the types that a Java file mentions are written. A simple name belongs to the first
  type that claims it, beginning with the type that the file declares; that type is written
  by it, and any other of the same simple name by its dotted name. Names without a package
  and names with type arguments or array brackets are written as they are.

  What the names mean to a reader of the file is not decided here, but in
  `Proofs/Java/Scoping.lean`.
-/
import EntityGen.Layout.Imports
import EntityGen.Naming

set_option autoImplicit false

namespace EntityGen.Java

open EntityGen.Layout (Imports)

/-- The package whose types need no import. -/
def implicitPackage : String := "java.lang"

/-- The simple names of a file and what it imports. -/
structure Resolver where
  /-- The package of the file. -/
  packageName : String
  /-- The dotted name that each claimed simple name stands for, latest claim first. -/
  claimed : List (String × String)
  imports : Imports
  deriving DecidableEq, Repr, Inhabited

namespace Resolver

/-- The names of a file without a package that declares nothing. -/
def empty : Resolver :=
  ⟨"", [], .empty⟩

/-- The names of a file that declares a type. -/
def declaring (qualifiedName : String) : Resolver :=
  ⟨Naming.namespaceOf qualifiedName, [(Naming.simpleNameOf qualifiedName, qualifiedName)], .empty⟩

/-- The name can be claimed and imported: it has a package, and neither type arguments nor brackets.
-/
def isImportable (qualifiedName : String) : Bool :=
  !(Naming.namespaceOf qualifiedName).isEmpty &&
    !qualifiedName.toList.any fun c => c == '<' || c == '['

/-- Types of this package need an import. -/
def needsImport (resolver : Resolver) (packageName : String) : Bool :=
  packageName != implicitPackage && packageName != resolver.packageName

/-- The names with one more claim. -/
def claim (resolver : Resolver) (qualifiedName : String) : Resolver :=
  let packageName := Naming.namespaceOf qualifiedName
  let simpleName := Naming.simpleNameOf qualifiedName
  { resolver with
    claimed := (simpleName, qualifiedName) :: resolver.claimed
    imports :=
      if resolver.needsImport packageName then resolver.imports.add packageName simpleName
      else resolver.imports }

/-- How a type is written, and the names after it was. -/
def resolve (qualifiedName : String) : StateM Resolver String := fun resolver =>
  if isImportable qualifiedName then
    let simpleName := Naming.simpleNameOf qualifiedName
    match resolver.claimed.lookup simpleName with
    | some owner => (if owner = qualifiedName then simpleName else qualifiedName, resolver)
    | none => (simpleName, resolver.claim qualifiedName)
  else (qualifiedName, resolver)

/-- The dotted names that the file imports, ascending. -/
def importedNames (resolver : Resolver) : List String :=
  resolver.imports.qualified "."

end Resolver

end EntityGen.Java
