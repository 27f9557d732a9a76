/-
  Java/CompilationUnit.lean --- files.

  Source: the syntax of compilation units in Java: a package, imports, declarations.

  A Java file has a package, imports and bodies, with an empty line between what there is of
  them.
-/
import EntityGen.Layout.Writer

set_option autoImplicit false

namespace EntityGen.Java

open EntityGen.Layout (Fragment Indent Writer)

/-- A Java file. -/
structure CompilationUnit where
  /-- The package; empty if there is none. -/
  packageName : String
  /-- The dotted names that are imported. -/
  imports : List String
  bodies : List (List Fragment)
  deriving Repr, Inhabited

namespace CompilationUnit

/-- There is nothing in the file. -/
def isEmpty (unit : CompilationUnit) : Bool :=
  unit.packageName.isEmpty && unit.imports.isEmpty && unit.bodies.isEmpty

/-- An empty line, unless there is no text before it. -/
def separate (writer : Writer) : Writer :=
  if writer.text.isEmpty then writer else writer.blank

/-- The package and the imports. -/
def header (unit : CompilationUnit) : Writer :=
  let start := Writer.start .java
  let named :=
    if unit.packageName.isEmpty then start else start.line s!"package {unit.packageName};"
  if unit.imports.isEmpty then named
  else unit.imports.foldl (fun writer name => writer.line s!"import {name};") (separate named)

/-- The text of the file. -/
def text (unit : CompilationUnit) : String :=
  (unit.bodies.foldl (fun writer body => (separate writer).fragments body) unit.header).text

end CompilationUnit

end EntityGen.Java
