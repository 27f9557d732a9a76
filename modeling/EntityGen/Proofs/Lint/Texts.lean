/-
  Proofs/Lint/Texts.lean --- checks and free texts.

  Source: the specification, section 4.3 (query text is never inspected).

  No check reads the description of an object or the text of a query. Models that are the
  same but for these therefore have the same findings, and are refused alike.
-/
import EntityGen.Proofs.Blueprint.Texts
import EntityGen.Proofs.Compile.Check

set_option autoImplicit false

namespace EntityGen

open Model (AlikeButTexts BusinessObject DataModel)

namespace Model

/-- What is found by looking at objects without their texts is the same for objects that are the same
but for their texts. -/
theorem AlikeButTexts.flatMap_eq {α : Type} {objects others : List BusinessObject}
    (alike : AlikeButTexts objects others) (view : BusinessObject → List α)
    (ignores : ∀ object, view object.withoutTexts = view object) :
    objects.flatMap view = others.flatMap view := by
  have erased : ∀ items : List BusinessObject,
      items.flatMap view = (items.map BusinessObject.withoutTexts).flatMap view := by
    intro items
    rw [List.flatMap_map]
    simp only [ignores]
  rw [erased objects, alike, ← erased others]

end Model

/-! ## Findings in objects -/

namespace Lint

theorem ReservedName.check_withoutTexts (object : BusinessObject) :
    ReservedName.check object.withoutTexts = ReservedName.check object :=
  rfl

theorem Identifier.check_withoutTexts (object : BusinessObject) :
    Identifier.check object.withoutTexts = Identifier.check object := by
  unfold Identifier.check
  simp only [BusinessObject.withoutTexts, List.flatMap_map]
  rfl

theorem DuplicateField.check_withoutTexts (object : BusinessObject) :
    DuplicateField.check object.withoutTexts = DuplicateField.check object := by
  have each : ∀ earlier fields, DuplicateField.clashes object.withoutTexts earlier fields =
      DuplicateField.clashes object earlier fields := by
    intro earlier fields
    induction fields generalizing earlier with
    | nil => rfl
    | cons field rest ih =>
      simp only [DuplicateField.clashes, ih]
      rfl
  exact each [] object.fields

theorem UniqueConstraint.check_withoutTexts (object : BusinessObject) :
    UniqueConstraint.check object.withoutTexts = UniqueConstraint.check object := by
  have each : ∀ earlier constraints,
      UniqueConstraint.checkAll object.withoutTexts earlier constraints =
        UniqueConstraint.checkAll object earlier constraints := by
    intro earlier constraints
    induction constraints generalizing earlier with
    | nil => rfl
    | cons constraint rest ih =>
      rw [UniqueConstraint.checkAll, UniqueConstraint.checkAll, ih]
      rfl
  exact each [] object.uniqueConstraints

theorem DaoMethod.check_withoutTexts (object : BusinessObject) :
    DaoMethod.check object.withoutTexts = DaoMethod.check object := by
  have each : ∀ earlier methods,
      DaoMethod.checkMethods object.withoutTexts earlier methods =
        DaoMethod.checkMethods object earlier methods := by
    intro earlier methods
    induction methods generalizing earlier with
    | nil => rfl
    | cons method rest ih =>
      rw [DaoMethod.checkMethods, DaoMethod.checkMethods, ih]
      rfl
  rw [DaoMethod.check, Blueprint.daoOutline_withoutTexts, each, DaoMethod.check]

theorem QueryReturnType.check_withoutTexts (object : BusinessObject) :
    QueryReturnType.check object.withoutTexts = QueryReturnType.check object := by
  unfold QueryReturnType.check
  simp only [BusinessObject.withoutTexts, List.flatMap_map]
  rfl

end Lint

/-! ## Findings in models -/

namespace Compile

open Blueprint (Variant)

variable {model other : DataModel} (alike : AlikeButTexts model.objects other.objects)

include alike

/-- Models that are the same but for their texts have the same findings. -/
theorem diagnostics_eq_of_alike (variant : Variant) :
    (check variant model).diagnostics = (check variant other).diagnostics := by
  have types : Lint.TypeCollision.check model = Lint.TypeCollision.check other := by
    unfold Lint.TypeCollision.check
    rw [alike.flatMap_eq Lint.TypeCollision.typesOf fun _ => rfl]
  rw [diagnostics_check, diagnostics_check, types,
    alike.flatMap_eq _ Lint.ReservedName.check_withoutTexts,
    alike.flatMap_eq _ Lint.Identifier.check_withoutTexts,
    alike.flatMap_eq _ Lint.DuplicateField.check_withoutTexts,
    alike.flatMap_eq _ Lint.UniqueConstraint.check_withoutTexts,
    alike.flatMap_eq _ Lint.DaoMethod.check_withoutTexts,
    alike.flatMap_eq _ Lint.QueryReturnType.check_withoutTexts]

theorem hasErrors_eq_of_alike (variant : Variant) :
    (check variant model).hasErrors = (check variant other).hasErrors := by
  unfold Context.hasErrors
  rw [diagnostics_eq_of_alike alike]

theorem Clean.of_alike (clean : Clean model) : Clean other := by
  rw [← hasErrors_check_eq_false_iff .server] at clean ⊢
  rw [← hasErrors_eq_of_alike alike]
  exact clean

end Compile

end EntityGen
