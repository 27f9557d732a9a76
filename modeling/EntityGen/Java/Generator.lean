/-
  Java/Generator.lean --- the files of a program.

  Source: the specification, section 2 (Java renderer) and section 4.5 (one file for each
  type).

  The Java source files of a program, one for each class, in the order of the program.
-/
import EntityGen.Compile.Phase
import EntityGen.Files.Registry
import EntityGen.Java.ClassText

set_option autoImplicit false

namespace EntityGen.Java

open EntityGen.Blueprint (ClassSpec Program Variant)
open EntityGen.Compile (CompileFault)
open EntityGen.Files (FileEntry Registry)
open EntityGen.Model (DataModel)

/-- The name of the language. -/
def languageName : String := "java"

/-- The extension of source files. -/
def fileExtension : String := "java"

/-- The source file of a class. -/
def classFile (spec : ClassSpec) : FileEntry :=
  FileEntry.ofClass spec.qualifiedName fileExtension (classText spec)

/-- The source files of a program. -/
def sources (program : Program) : Registry :=
  ⟨program.items.map classFile⟩

/-- The program of a model that passes the checks. -/
def programOf (variant : Variant) (model : DataModel) : Except CompileFault Program := do
  (← Compile.compile variant [] model).builtProgram

end EntityGen.Java
