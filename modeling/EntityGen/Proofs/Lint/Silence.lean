/-
  Proofs/Lint/Silence.lean --- silent lints.

  Source: the specification, section 7 (taxonomy), lint by lint.

  What a business object or a model is like about which a lint has nothing to say. Every
  lint but the last reports errors only, so these conditions together are those under which
  a model has no errors.
-/
import EntityGen.Lint.Suite
import EntityGen.Proofs.Blueprint.Dao
import Mathlib.Data.List.Nodup

set_option autoImplicit false

namespace EntityGen.Lint

open EntityGen.Model (BusinessObject DataModel Field Query)

/-- How grave a finding is and which check found it: the part of a finding that is the same for all
findings of a check. -/
def Diagnostic.stamp (finding : Diagnostic) : Severity × String :=
  (finding.severity, finding.source)

theorem Diagnostic.isError_of_stamp {finding : Diagnostic} {source : String}
    (stamped : finding.stamp = (.error, source)) : finding.isError = true := by
  have severity : finding.severity = .error := congrArg Prod.fst stamped
  rw [Diagnostic.isError, severity]
  rfl

theorem Diagnostic.source_of_stamp {finding : Diagnostic} {severity : Severity} {source : String}
    (stamped : finding.stamp = (severity, source)) : finding.source = source :=
  congrArg Prod.snd stamped

/-- A name that was met before spoils a list of pairwise distinct names. -/
theorem not_nodup_of_met {α : Type} {item : α} {earlier rest : List α} (met : item ∈ earlier) :
    ¬ (earlier ++ item :: rest).Nodup := by
  intro apart
  exact (List.nodup_append.1 apart).2.2 item met item List.mem_cons_self rfl

/-- A name that was not met before may be added to pairwise distinct names. -/
theorem nodup_of_new {α : Type} {item : α} {earlier : List α} (new : item ∉ earlier)
    (apart : earlier.Nodup) : (earlier ++ [item]).Nodup := by
  rw [← List.concat_eq_append]
  exact apart.concat new

/-! ## Reserved names -/

namespace ReservedName

theorem check_eq_nil_iff {object : BusinessObject} :
    check object = [] ↔ Blueprint.typeNameFault? object.qualifiedName = none := by
  rw [← Blueprint.checkTypeName_eq_ok_iff]
  unfold check
  cases Blueprint.checkTypeName object.qualifiedName with
  | ok => simp
  | error fault => simp

theorem stamp_of_mem_check {object : BusinessObject} {finding : Diagnostic}
    (mem : finding ∈ check object) : finding.stamp = (.error, name) := by
  unfold check at mem
  split at mem
  · exact absurd mem List.not_mem_nil
  · rw [List.mem_singleton.1 mem]
    rfl

end ReservedName

/-! ## Type collisions -/

namespace TypeCollision

/-- The name of a type without regard to letter case. -/
def foldedName (type : GeneratedType) : String :=
  Text.lower type.name

/-- The types that the walk remembers behind a list of types, given those that it remembers before
it. -/
def remembered (earlier : List GeneratedType) : List GeneratedType → List GeneratedType
  | [] => earlier
  | type :: rest =>
    match earlier.find? fun first => Text.lower first.name == Text.lower type.name with
    | some _ => remembered earlier rest
    | none => remembered (earlier ++ [type]) rest

/-- The finding of a type that collides with an earlier one. -/
def collision (first type : GeneratedType) : Diagnostic :=
  ⟨.error, name, s!"generated type '{type.name}' collides with '{first.name}'", some type.owner⟩

/-- A step of the walk: a type whose name was met is reported against one that is remembered, and any
other type is remembered. -/
def Steps (earlier : List GeneratedType) (type : GeneratedType) (findings : List Diagnostic)
    (next : List GeneratedType) : Prop :=
  (∃ first ∈ earlier, foldedName first = foldedName type ∧ findings = [collision first type] ∧
      next = earlier) ∨
    (foldedName type ∉ earlier.map foldedName ∧ findings = [] ∧ next = earlier ++ [type])

/-- The walk goes on from where its first step leads, whatever types follow. -/
theorem exists_steps (earlier : List GeneratedType) (type : GeneratedType) :
    ∃ findings next, Steps earlier type findings next ∧
      ∀ rest, collisions earlier (type :: rest) = findings ++ collisions next rest ∧
        remembered earlier (type :: rest) = remembered next rest := by
  cases search : earlier.find? fun first => Text.lower first.name == Text.lower type.name with
  | some first =>
    have same : foldedName first = foldedName type := by
      simpa [foldedName] using List.find?_some search
    refine ⟨[collision first type], earlier,
      Or.inl ⟨first, List.mem_of_find?_eq_some search, same, rfl, rfl⟩, fun rest => ?_⟩
    simp only [collisions, remembered, search, collision, List.singleton_append, and_self]
  | none =>
    have new : foldedName type ∉ earlier.map foldedName := by
      intro met
      obtain ⟨first, mem, same⟩ := List.mem_map.1 met
      exact List.find?_eq_none.1 search first mem (by simpa [foldedName] using same)
    refine ⟨[], earlier ++ [type], Or.inr ⟨new, rfl, rfl⟩, fun rest => ?_⟩
    simp only [collisions, remembered, search, List.nil_append, and_self]

/-- Types are reported unless their folded names are pairwise distinct. -/
theorem collisions_eq_nil_iff {earlier types : List GeneratedType}
    (apart : (earlier.map foldedName).Nodup) :
    collisions earlier types = [] ↔ ((earlier ++ types).map foldedName).Nodup := by
  induction types generalizing earlier with
  | nil => simpa [collisions] using apart
  | cons type rest ih =>
    obtain ⟨findings, next, step, goesOn⟩ := exists_steps earlier type
    rw [(goesOn rest).1]
    rcases step with ⟨first, mem, same, rfl, rfl⟩ | ⟨fresh, rfl, rfl⟩
    · have met : foldedName type ∈ next.map foldedName := same ▸ List.mem_map_of_mem mem
      simpa using not_nodup_of_met met
    · have apart' : ((earlier ++ [type]).map foldedName).Nodup := by
        rw [List.map_append, List.map_singleton]
        exact nodup_of_new fresh apart
      rw [List.nil_append, ih apart', List.append_assoc, List.singleton_append]

theorem check_eq_nil_iff {model : DataModel} :
    check model = [] ↔ ((model.objects.flatMap typesOf).map foldedName).Nodup :=
  collisions_eq_nil_iff List.nodup_nil

theorem stamp_of_mem_collisions {earlier types : List GeneratedType} {finding : Diagnostic}
    (mem : finding ∈ collisions earlier types) : finding.stamp = (.error, name) := by
  induction types generalizing earlier with
  | nil => exact absurd mem List.not_mem_nil
  | cons type rest ih =>
    obtain ⟨findings, next, step, goesOn⟩ := exists_steps earlier type
    rw [(goesOn rest).1, List.mem_append] at mem
    rcases mem with here | later
    · rcases step with ⟨first, -, -, rfl, -⟩ | ⟨-, rfl, -⟩
      · rw [List.mem_singleton.1 here]
        rfl
      · exact absurd here List.not_mem_nil
    · exact ih later

theorem stamp_of_mem_check {model : DataModel} {finding : Diagnostic}
    (mem : finding ∈ check model) : finding.stamp = (.error, name) :=
  stamp_of_mem_collisions mem

end TypeCollision

/-! ## Identifiers -/

namespace Identifier

theorem checkName_eq_nil_iff {member kind location : String} :
    checkName member kind location = [] ↔ Java.isIdentifier member = true := by
  unfold checkName Java.isIdentifier
  cases Java.identifierFault? member with
  | none => simp
  | some fault => simp

theorem stamp_of_mem_checkName {member kind location : String} {finding : Diagnostic}
    (mem : finding ∈ checkName member kind location) : finding.stamp = (.error, name) := by
  unfold checkName at mem
  split at mem
  · rw [List.mem_singleton.1 mem]
    rfl
  · exact absurd mem List.not_mem_nil

/-- A field has a usable name and accessors that no object has anyway. -/
def FieldUsable (field : Field) : Prop :=
  Java.isIdentifier field.name = true ∧
    Naming.getterName field.name field.type ∉ objectMethods ∧
    Naming.setterName field.name ∉ objectMethods

/-- A query and its parameters have usable names. -/
def QueryUsable (query : Query) : Prop :=
  Java.isIdentifier query.name = true ∧
    ∀ parameter ∈ query.parameters, Java.isIdentifier parameter.name = true

theorem checkAccessors_eq_nil_iff {field : Field} {location : String} :
    checkAccessors field location = [] ↔
      Naming.getterName field.name field.type ∉ objectMethods ∧
        Naming.setterName field.name ∉ objectMethods := by
  unfold checkAccessors
  simp only
  split
  · rename_i accessor found
    have clash : accessor ∈ objectMethods := by simpa using List.find?_some found
    have listed := List.mem_of_find?_eq_some found
    simp only [List.mem_cons, List.not_mem_nil, or_false] at listed
    simp only [List.cons_ne_nil, false_iff]
    rintro ⟨getter, setter⟩
    rcases listed with rfl | rfl
    · exact getter clash
    · exact setter clash
  · rename_i missing
    simpa using missing

theorem checkField_eq_nil_iff {object : BusinessObject} {field : Field} :
    checkField object field = [] ↔ FieldUsable field := by
  unfold checkField FieldUsable
  simp only
  split
  · rename_i silent
    rw [checkAccessors_eq_nil_iff, checkName_eq_nil_iff.1 silent]
    simp
  · rename_i findings
    have unusable : ¬ Java.isIdentifier field.name = true :=
      fun usable => findings (checkName_eq_nil_iff.2 usable)
    exact ⟨fun silent => absurd silent findings, fun usable => absurd usable.1 unusable⟩

theorem stamp_of_mem_checkField {object : BusinessObject} {field : Field} {finding : Diagnostic}
    (mem : finding ∈ checkField object field) : finding.stamp = (.error, name) := by
  unfold checkField at mem
  simp only at mem
  split at mem
  · unfold checkAccessors at mem
    simp only at mem
    split at mem
    · rw [List.mem_singleton.1 mem]
      rfl
    · exact absurd mem List.not_mem_nil
  · exact stamp_of_mem_checkName mem

theorem checkQuery_eq_nil_iff {object : BusinessObject} {query : Query} :
    checkQuery object query = [] ↔ QueryUsable query := by
  unfold checkQuery QueryUsable
  simp only [List.append_eq_nil_iff, List.flatMap_eq_nil_iff, checkName_eq_nil_iff]

theorem stamp_of_mem_checkQuery {object : BusinessObject} {query : Query} {finding : Diagnostic}
    (mem : finding ∈ checkQuery object query) : finding.stamp = (.error, name) := by
  unfold checkQuery at mem
  rcases List.mem_append.1 mem with own | parameters
  · exact stamp_of_mem_checkName own
  · obtain ⟨parameter, -, here⟩ := List.mem_flatMap.1 parameters
    exact stamp_of_mem_checkName here

theorem check_eq_nil_iff {object : BusinessObject} :
    check object = [] ↔
      (∀ field ∈ object.fields, FieldUsable field) ∧
        ∀ query ∈ object.queries, QueryUsable query := by
  unfold check
  simp only [List.append_eq_nil_iff, List.flatMap_eq_nil_iff, checkField_eq_nil_iff,
    checkQuery_eq_nil_iff]

theorem stamp_of_mem_check {object : BusinessObject} {finding : Diagnostic}
    (mem : finding ∈ check object) : finding.stamp = (.error, name) := by
  unfold check at mem
  rcases List.mem_append.1 mem with fields | queries
  · obtain ⟨field, -, here⟩ := List.mem_flatMap.1 fields
    exact stamp_of_mem_checkField here
  · obtain ⟨query, -, here⟩ := List.mem_flatMap.1 queries
    exact stamp_of_mem_checkQuery here

end Identifier

/-! ## Duplicate fields -/

namespace DuplicateField

/-- Fields are reported unless their capitalized names differ from each other, from those of the
earlier fields and from those of the generated ones. -/
theorem clashes_eq_nil_iff {object : BusinessObject} {earlier : List String} {fields : List Field}
    (apart : ((generatedFields ++ earlier).map Text.capitalize).Nodup) :
    clashes object earlier fields = [] ↔
      ((generatedFields ++ earlier ++ fields.map Field.name).map Text.capitalize).Nodup := by
  induction fields generalizing earlier with
  | nil => simpa [clashes] using apart
  | cons field rest ih =>
    -- Both searches report a field for the same reason: a capitalized name that was there before.
    have spoiled : ∀ {other}, other ∈ generatedFields ++ earlier →
        Text.capitalize other = Text.capitalize field.name →
        ¬ ((generatedFields ++ earlier ++ (field :: rest).map Field.name).map
          Text.capitalize).Nodup := by
      intro other mem same
      rw [List.map_append, List.map_cons, List.map_cons]
      exact not_nodup_of_met (same ▸ List.mem_map_of_mem mem)
    unfold clashes
    simp only
    split
    · rename_i generated found
      have mem := List.mem_of_find?_eq_some found
      have same : Text.capitalize generated = Text.capitalize field.name := by
        simpa using List.find?_some found
      simpa using spoiled (List.mem_append_left earlier mem) same
    · rename_i notGenerated
      split
      · rename_i first found
        have mem := List.mem_of_find?_eq_some found
        have same : Text.capitalize first = Text.capitalize field.name := by
          simpa using List.find?_some found
        simpa using spoiled (List.mem_append_right generatedFields mem) same
      · rename_i notEarlier
        have fresh : Text.capitalize field.name ∉
            (generatedFields ++ earlier).map Text.capitalize := by
          intro met
          obtain ⟨other, mem, same⟩ := List.mem_map.1 met
          rcases List.mem_append.1 mem with mem | mem
          · exact List.find?_eq_none.1 notGenerated other mem (by simpa using same)
          · exact List.find?_eq_none.1 notEarlier other mem (by simpa using same)
        have apart' : ((generatedFields ++ (earlier ++ [field.name])).map
            Text.capitalize).Nodup := by
          rw [← List.append_assoc, List.map_append, List.map_singleton]
          exact nodup_of_new fresh apart
        rw [ih apart', List.map_cons, ← List.append_assoc, List.append_assoc _ [field.name],
          List.singleton_append]

theorem check_eq_nil_iff {object : BusinessObject} :
    check object = [] ↔
      ((generatedFields ++ object.fields.map Field.name).map Text.capitalize).Nodup := by
  have apart : ((generatedFields ++ []).map Text.capitalize).Nodup := by decide
  unfold check
  rw [clashes_eq_nil_iff apart, List.append_nil]

theorem stamp_of_mem_clashes {object : BusinessObject} {earlier : List String}
    {fields : List Field} {finding : Diagnostic} (mem : finding ∈ clashes object earlier fields) :
    finding.stamp = (.error, name) := by
  induction fields generalizing earlier with
  | nil => exact absurd mem List.not_mem_nil
  | cons field rest ih =>
    unfold clashes at mem
    simp only at mem
    split at mem
    · rcases List.mem_cons.1 mem with rfl | later
      · rfl
      · exact ih later
    · split at mem
      · rcases List.mem_cons.1 mem with rfl | later
        · rfl
        · exact ih later
      · exact ih mem

theorem stamp_of_mem_check {object : BusinessObject} {finding : Diagnostic}
    (mem : finding ∈ check object) : finding.stamp = (.error, name) :=
  stamp_of_mem_clashes mem

end DuplicateField

/-! ## Unique constraints -/

namespace UniqueConstraint

/-- A constraint lists fields, and only fields that the object declares. -/
def Listed (object : BusinessObject) (constraint : Model.UniqueConstraint) : Prop :=
  constraint.fields ≠ [] ∧ ∀ field ∈ constraint.fields, (object.field? field).isSome

theorem checkOne_eq_nil_iff {object : BusinessObject} {earlier : List String}
    {constraint : Model.UniqueConstraint} :
    checkOne object earlier constraint = [] ↔
      constraint.name ∉ earlier ∧ Listed object constraint := by
  unfold checkOne Listed
  simp only [List.append_eq_nil_iff, List.map_eq_nil_iff, List.filter_eq_nil_iff]
  have repeated : ∀ {finding : Diagnostic},
      (if earlier.contains constraint.name then [finding] else []) = [] ↔
        constraint.name ∉ earlier := by
    intro finding
    by_cases met : constraint.name ∈ earlier
    · simp [met]
    · simp [met]
  have empty : ∀ {finding : Diagnostic},
      (if constraint.fields.isEmpty then [finding] else []) = [] ↔ constraint.fields ≠ [] := by
    intro finding
    cases constraint.fields with
    | nil => simp
    | cons field rest => simp
  rw [repeated, empty, and_assoc]
  simp [Option.isSome_iff_ne_none]

/-- Constraints are reported unless their names are pairwise distinct and each is well listed. -/
theorem checkAll_eq_nil_iff {object : BusinessObject} {earlier : List String}
    {constraints : List Model.UniqueConstraint} :
    checkAll object earlier constraints = [] ↔
      (constraints.map Model.UniqueConstraint.name).Nodup ∧
        (∀ constraint ∈ constraints, constraint.name ∉ earlier) ∧
        ∀ constraint ∈ constraints, Listed object constraint := by
  induction constraints generalizing earlier with
  | nil => simp [checkAll]
  | cons constraint rest ih =>
    rw [checkAll, List.append_eq_nil_iff, checkOne_eq_nil_iff, ih, List.map_cons, List.nodup_cons,
      List.forall_mem_cons, List.forall_mem_cons]
    simp only [List.mem_cons, not_or, List.mem_map, not_exists, not_and]
    constructor
    · rintro ⟨⟨fresh, listed⟩, apart, later, others⟩
      exact ⟨⟨fun other mem => (later other mem).1, apart⟩,
        ⟨fresh, fun other mem => (later other mem).2⟩, listed, others⟩
    · rintro ⟨⟨once, apart⟩, ⟨fresh, later⟩, listed, others⟩
      exact ⟨⟨fresh, listed⟩, apart, fun other mem => ⟨once other mem, later other mem⟩, others⟩

theorem check_eq_nil_iff {object : BusinessObject} :
    check object = [] ↔
      (object.uniqueConstraints.map Model.UniqueConstraint.name).Nodup ∧
        ∀ constraint ∈ object.uniqueConstraints, Listed object constraint := by
  unfold check
  simp [checkAll_eq_nil_iff]

theorem stamp_of_mem_checkOne {object : BusinessObject} {earlier : List String}
    {constraint : Model.UniqueConstraint} {found : Diagnostic}
    (mem : found ∈ checkOne object earlier constraint) : found.stamp = (.error, name) := by
  unfold checkOne at mem
  simp only [List.mem_append, List.mem_map] at mem
  rcases mem with (again | none) | ⟨field, -, rfl⟩
  · split at again
    · rw [List.mem_singleton.1 again]
      rfl
    · exact absurd again List.not_mem_nil
  · split at none
    · rw [List.mem_singleton.1 none]
      rfl
    · exact absurd none List.not_mem_nil
  · rfl

theorem stamp_of_mem_checkAll {object : BusinessObject} {earlier : List String}
    {constraints : List Model.UniqueConstraint} {found : Diagnostic}
    (mem : found ∈ checkAll object earlier constraints) : found.stamp = (.error, name) := by
  induction constraints generalizing earlier with
  | nil => exact absurd mem List.not_mem_nil
  | cons constraint rest ih =>
    rcases List.mem_append.1 mem with here | later
    · exact stamp_of_mem_checkOne here
    · exact ih later

theorem stamp_of_mem_check {object : BusinessObject} {finding : Diagnostic}
    (mem : finding ∈ check object) : finding.stamp = (.error, name) :=
  stamp_of_mem_checkAll mem

end UniqueConstraint

/-! ## Methods of access interfaces -/

namespace DaoMethod

theorem checkParameters_eq_nil_iff {dao location method : String} {parameters : List String} :
    checkParameters dao location method parameters = [] ↔ parameters.Nodup := by
  rw [← Blueprint.firstRepeated_nil_eq_none_iff]
  unfold checkParameters
  cases Blueprint.firstRepeated [] parameters with
  | none => simp
  | some parameter => simp

theorem stamp_of_mem_checkParameters {dao location method : String} {parameters : List String}
    {finding : Diagnostic} (mem : finding ∈ checkParameters dao location method parameters) :
    finding.stamp = (.error, name) := by
  unfold checkParameters at mem
  split at mem
  · rw [List.mem_singleton.1 mem]
    rfl
  · exact absurd mem List.not_mem_nil

/-- Methods are reported unless their names and the parameters of each are pairwise distinct. -/
theorem checkMethods_eq_nil_iff {object : BusinessObject} {earlier : List String}
    {methods : List (String × List String)} (apart : earlier.Nodup) :
    checkMethods object earlier methods = [] ↔
      (methods.map Prod.fst).Nodup ∧ (∀ method ∈ methods, method.1 ∉ earlier) ∧
        ∀ method ∈ methods, method.2.Nodup := by
  induction methods generalizing earlier with
  | nil => simp [checkMethods]
  | cons method rest ih =>
    obtain ⟨name, parameters⟩ := method
    unfold checkMethods
    simp only [List.append_eq_nil_iff, checkParameters_eq_nil_iff, List.map_cons, List.nodup_cons,
      List.forall_mem_cons]
    by_cases met : name ∈ earlier
    · have second : earlier.count name = 1 := List.count_eq_one_of_mem apart met
      simp [second, met]
    · have first : earlier.count name = 0 := List.count_eq_zero_of_not_mem met
      rw [ih (List.nodup_cons.2 ⟨met, apart⟩)]
      simp only [first, met, List.mem_cons, not_or, List.mem_map, not_exists, not_and]
      constructor
      · rintro ⟨⟨own, -⟩, others, later, parametersApart⟩
        exact ⟨⟨fun other mem => (later other mem).1, others⟩,
          ⟨not_false, fun other mem => (later other mem).2⟩, own, parametersApart⟩
      · rintro ⟨⟨once, others⟩, ⟨-, later⟩, own, parametersApart⟩
        exact ⟨⟨own, by simp⟩, others, fun other mem => ⟨once other mem, later other mem⟩,
          parametersApart⟩

theorem check_eq_nil_iff {object : BusinessObject} :
    check object = [] ↔ Blueprint.OutlineDistinct object := by
  unfold check Blueprint.OutlineDistinct Blueprint.daoMethodNames
  rw [checkMethods_eq_nil_iff List.nodup_nil]
  simp

theorem stamp_of_mem_checkMethods {object : BusinessObject} {earlier : List String}
    {methods : List (String × List String)} {finding : Diagnostic}
    (mem : finding ∈ checkMethods object earlier methods) : finding.stamp = (.error, name) := by
  induction methods generalizing earlier with
  | nil => exact absurd mem List.not_mem_nil
  | cons method rest ih =>
    unfold checkMethods at mem
    simp only [List.mem_append] at mem
    rcases mem with (parameters | again) | later
    · exact stamp_of_mem_checkParameters parameters
    · split at again
      · rw [List.mem_singleton.1 again]
        rfl
      · exact absurd again List.not_mem_nil
    · exact ih later

theorem stamp_of_mem_check {object : BusinessObject} {finding : Diagnostic}
    (mem : finding ∈ check object) : finding.stamp = (.error, name) :=
  stamp_of_mem_checkMethods mem

end DaoMethod

/-! ## Result types of queries -/

namespace QueryReturnType

/-- A query whose result is not what it seems is no error. -/
theorem stamp_of_mem_check {object : BusinessObject} {finding : Diagnostic}
    (mem : finding ∈ check object) : finding.stamp = (.warning, name) := by
  obtain ⟨query, -, here⟩ := List.mem_flatMap.1 mem
  unfold checkQuery at here
  simp only at here
  split at here
  · exact absurd here List.not_mem_nil
  · rw [List.mem_singleton.1 here]
    rfl

end QueryReturnType

end EntityGen.Lint
