/-
  Files/Registry.lean --- the files of a run.

  Source: the specification, section 4.5 (`FileRegistry`, `preview`).

  The files of a program, with their paths below a directory that is chosen later.
-/
import EntityGen.Files.Staging
import EntityGen.Naming

set_option autoImplicit false

namespace EntityGen.Files

/-- A generated file, with its path below the output directory. -/
structure FileEntry where
  /-- The path below the output directory. -/
  path : String
  /-- The text of the file. -/
  content : String
  deriving DecidableEq, Repr, Inhabited

namespace FileEntry

/-- The path of the source file of a type: a directory for every part of its package. -/
def classPath (qualifiedName extension : String) : String :=
  let fileName := Naming.simpleNameOf qualifiedName ++ "." ++ extension
  let packageName := Naming.namespaceOf qualifiedName
  if packageName.isEmpty then fileName
  else Text.replaceChar '.' '/' packageName ++ "/" ++ fileName

/-- The source file of a type. -/
def ofClass (qualifiedName extension content : String) : FileEntry :=
  ⟨classPath qualifiedName extension, content⟩

/-- The path of the file under an output directory, piece by piece. -/
def fullPath (entry : FileEntry) (base : String) : String :=
  (Path.segments entry.path).foldl Path.join base

/-- The file under an output directory. -/
def under (entry : FileEntry) (base : String) : TextFile :=
  ⟨entry.fullPath base, entry.content⟩

end FileEntry

/-- Generated files in order of registration. -/
structure Registry where
  entries : List FileEntry
  deriving DecidableEq, Repr, Inhabited

namespace Registry

/-- No files. -/
def empty : Registry :=
  ⟨[]⟩

/-- The registry with one more file. -/
def register (registry : Registry) (entry : FileEntry) : Registry :=
  ⟨registry.entries ++ [entry]⟩

/-- The registry with more files. -/
def registerAll (registry : Registry) (entries : List FileEntry) : Registry :=
  ⟨registry.entries ++ entries⟩

/-- The first file of this path. -/
def get? (registry : Registry) (path : String) : Option FileEntry :=
  registry.entries.find? fun entry => entry.path == path

/-- The number of files. -/
def size (registry : Registry) : Nat :=
  registry.entries.length

/-- There are no files. -/
def isEmpty (registry : Registry) : Bool :=
  registry.entries.isEmpty

/-- Writes the files under an output directory. -/
def writeAll {m : Type → Type} [Monad m] {Handle : Type} (registry : Registry)
    (volume : Volume m Handle) (base : String) : m (Except FileFault (List String)) :=
  volume.writeAll (registry.entries.map fun entry => entry.under base)

end Registry

end EntityGen.Files
