/-
  Files/Staging.lean --- all files or none.

  Source: the specification, section 4.5: every file is staged next to its target before any
  target is replaced, and a staging failure leaves no target touched.

  A file is first written in full under a temporary name next to its place, and then moved
  there. Until it is moved, the file in its place is untouched.

  The algorithm is written over any volume, so that a volume in memory and the machine run
  the same definition.
-/
import EntityGen.Files.Path
import EntityGen.Files.Volume

set_option autoImplicit false

namespace EntityGen.Files

/-- Why a file is not written. -/
inductive FileFault where
  /-- its directory cannot be made -/
  | noDirectory (path : String)
  /-- its content cannot be written -/
  | notStaged (path : String)
  /-- it cannot be moved to its place -/
  | notWritten (path : String)
  deriving DecidableEq, Repr, Inhabited

/-- The fault in words. -/
def FileFault.message : FileFault → String
  | .noDirectory path => s!"failed to create directory '{path}'"
  | .notStaged path => s!"failed to stage '{path}'"
  | .notWritten path => s!"failed to write '{path}'"

/-- A file to be written. -/
structure TextFile where
  /-- Where. -/
  path : String
  /-- What. -/
  content : String
  deriving DecidableEq, Repr, Inhabited

/-- The directory that a file lies in. -/
def TextFile.directory (file : TextFile) : String :=
  match Path.parent? file.path with
  | some parent => if parent.isEmpty then "." else parent
  | none => "."

/-- A file that is written under a temporary name. -/
structure Staged (Handle : Type) where
  /-- The temporary file. -/
  temporary : Handle
  /-- Where the file belongs. -/
  target : String
  deriving Repr, Inhabited

variable {m : Type → Type} [Monad m] {Handle : Type}

/-- Writes a file under a temporary name. If that fails, no temporary file is left. -/
def Volume.stage (volume : Volume m Handle) (file : TextFile) :
    m (Except FileFault (Staged Handle)) := do
  if ← volume.makeDirectories file.directory then
    match ← volume.createTemporary file.directory with
    | none => return .error (.notStaged file.path)
    | some temporary =>
      if ← volume.fill temporary file.content then return .ok ⟨temporary, file.path⟩
      else
        volume.discard temporary
        return .error (.notStaged file.path)
  else return .error (.noDirectory file.directory)

/-- Moves a staged file to its place. If that fails, the temporary file is removed. -/
def Volume.commit (volume : Volume m Handle) (staged : Staged Handle) :
    m (Except FileFault String) := do
  if ← volume.moveTo staged.temporary staged.target then return .ok staged.target
  else
    volume.discard staged.temporary
    return .error (.notWritten staged.target)

/-- Removes staged files. -/
def Volume.discardAll (volume : Volume m Handle) : List (Staged Handle) → m Unit
  | [] => return ()
  | staged :: rest => do
    volume.discard staged.temporary
    volume.discardAll rest

/-- Stages files in order, after others that are staged. If one fails, none stays staged. -/
def Volume.stageAll (volume : Volume m Handle) (before : List (Staged Handle)) :
    List TextFile → m (Except FileFault (List (Staged Handle)))
  | [] => return .ok before
  | file :: rest => do
    match ← volume.stage file with
    | .ok staged => volume.stageAll (before ++ [staged]) rest
    | .error fault =>
      volume.discardAll before
      return .error fault

/-- Moves staged files to their places in order, after others that were moved. If one fails, the rest
is removed. -/
def Volume.commitAll (volume : Volume m Handle) (before : List String) :
    List (Staged Handle) → m (Except FileFault (List String))
  | [] => return .ok before
  | staged :: rest => do
    match ← volume.commit staged with
    | .ok path => volume.commitAll (before ++ [path]) rest
    | .error fault =>
      volume.discardAll rest
      return .error fault

/-- Writes several files: all of them are staged before the first one is moved to its place. -/
def Volume.writeAll (volume : Volume m Handle) (files : List TextFile) :
    m (Except FileFault (List String)) := do
  match ← volume.stageAll [] files with
  | .ok staged => volume.commitAll [] staged
  | .error fault => return .error fault

end EntityGen.Files
