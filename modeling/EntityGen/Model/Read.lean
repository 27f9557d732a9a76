/-
  Model/Read.lean --- from a text to a model.

  Source: the specification, section 2 (data flow) and section 3 (`add_business_object`).

  From a source to a model: the source has to be TOML, its values have to make business
  objects, and these have to obey the rules.

  Reading has three stages, and each only sees what the one before it accepted. The rules
  come last, so they are stated on business objects and not on the text.
-/
import EntityGen.Model.Decode
import EntityGen.Model.Rules
import EntityGen.Toml.Document

set_option autoImplicit false

namespace EntityGen.Model

/-- The name of the file that a model is read from unless another one is given. -/
def defaultFileName : String := "bom.toml"

/-- The model with one more business object. -/
def DataModel.add (model : DataModel) (object : BusinessObject) : Except ModelFault DataModel :=
  match model.enroll? object with
  | some model => .ok model
  | none => .error (.duplicateObject object.qualifiedName)

/-- The model of several business objects in order. -/
def DataModel.ofObjects (objects : List BusinessObject) : Except ModelFault DataModel :=
  objects.foldlM DataModel.add Roster.empty

/-- The business objects of a source. -/
def readObjects (source : Source) : Except ModelFault (List BusinessObject) :=
  match Toml.parse source.text with
  | .error fault => .error (.malformed source (.notToml fault))
  | .ok entries =>
    match decodeDocument entries with
    | .error mismatch => .error (.malformed source (.mismatch mismatch))
    | .ok objects => .ok objects

/-- The model of business objects that were read from a source. -/
def DataModel.accept (source : Source) (objects : List BusinessObject) :
    Except ModelFault DataModel := do
  checkObjects source objects
  DataModel.ofObjects objects

/-- The model of a source. -/
def DataModel.read (source : Source) : Except ModelFault DataModel := do
  DataModel.accept source (← readObjects source)

end EntityGen.Model
