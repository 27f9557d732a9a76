/-
  Model/Load.lean --- models from files.

  Source: the specification, section 6 (file input).

  A model is loaded from a file of a volume and goes by the path of that file.
-/
import EntityGen.Files.Volume
import EntityGen.Model.Read

set_option autoImplicit false

namespace EntityGen.Model

open EntityGen.Files (Volume)

/-- The model of a file. -/
def DataModel.load {m : Type → Type} [Monad m] {Handle : Type} (volume : Volume m Handle)
    (path : String) : m (Except ModelFault DataModel) := do
  match ← volume.readText path with
  | some text => return DataModel.read ⟨text, path⟩
  | none => return .error (.unreadable path)

end EntityGen.Model
