/-
  Blueprint/Program.lean --- programs.

  Source: the specification, section 3 (Program) and section 2 (data flow).

  The classes that a model is turned into, with pairwise distinct names, in the order of the
  model: for each business object its entity and then its access interface.
-/
import EntityGen.Blueprint.Dao

set_option autoImplicit false

namespace EntityGen.Blueprint

/-- Classes with pairwise distinct names. -/
abbrev Program : Type := Roster ClassSpec.qualifiedName

/-- The program with one more class. -/
def Program.add (program : Program) (spec : ClassSpec) : Except ClassFault Program :=
  match program.enroll? spec with
  | some program => .ok program
  | none => .error (.duplicateClass spec.qualifiedName)

end EntityGen.Blueprint
