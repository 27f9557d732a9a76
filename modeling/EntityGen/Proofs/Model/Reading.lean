/-
  Proofs/Model/Reading.lean --- reading and the checks.

  Source: the specification, section 7: what reading refuses and what the lints of the
  validate phase find.

  Reading accepts a source exactly if its business objects are well-formed, and otherwise
  fails with the first violation. The checks of a model look again at much of what reading
  has looked at. In a model that was read they find none of it: no name that is no
  identifier, no missing package, no field that is declared twice, and no constraint that is
  empty or dangling.
-/
import EntityGen.Proofs.Compile.Check
import EntityGen.Proofs.Model.Accepted

set_option autoImplicit false

namespace EntityGen

namespace Text

/-! ## Ends of texts -/

/-- Texts whose last characters differ are different. -/
theorem append_ne_append {s t u v : String} (count : Nat) (long : count ≤ t.toList.length)
    (long' : count ≤ v.toList.length)
    (apart : t.toList.reverse.take count ≠ v.toList.reverse.take count) : s ++ t ≠ u ++ v := by
  intro same
  apply apart
  have ends := congrArg (fun text => text.toList.reverse.take count) same
  simpa only [String.toList_append, List.reverse_append,
    List.take_append_of_le_length (by simpa using long : count ≤ t.toList.reverse.length),
    List.take_append_of_le_length (by simpa using long' : count ≤ v.toList.reverse.length)]
    using ends

end Text

namespace Lint

open EntityGen.Model (BusinessObject DataModel Field WellFormed WellFormedObject)

/-! ## Origins of findings -/

/-- A lint of the suite reports under its own name. -/
theorem source_of_mem_check {lint : Lint} (listed : lint ∈ suite) {model : DataModel}
    {finding : Diagnostic} (mem : finding ∈ lint.check model) : finding.source = lint.name := by
  have perObject : ∀ {check : BusinessObject → List Diagnostic} {severity : Severity}
      {source : String}, (∀ object, ∀ found ∈ check object, found.stamp = (severity, source)) →
      finding ∈ model.objects.flatMap check → finding.source = source := by
    intro check severity source stamped here
    obtain ⟨object, -, there⟩ := List.mem_flatMap.1 here
    exact Diagnostic.source_of_stamp (stamped object finding there)
  simp only [suite, List.mem_cons, List.not_mem_nil, or_false] at listed
  rcases listed with rfl | rfl | rfl | rfl | rfl | rfl | rfl
  · exact perObject (fun _ _ => ReservedName.stamp_of_mem_check) mem
  · exact Diagnostic.source_of_stamp (TypeCollision.stamp_of_mem_check mem)
  · exact perObject (fun _ _ => Identifier.stamp_of_mem_check) mem
  · exact perObject (fun _ _ => DuplicateField.stamp_of_mem_check) mem
  · exact perObject (fun _ _ => UniqueConstraint.stamp_of_mem_check) mem
  · exact perObject (fun _ _ => DaoMethod.stamp_of_mem_check) mem
  · exact perObject (fun _ _ => QueryReturnType.stamp_of_mem_check) mem

/-- The lints of the suite have names of their own. -/
theorem eq_of_name_eq {first second : Lint} (one : first ∈ suite) (other : second ∈ suite)
    (same : first.name = second.name) : first = second := by
  have apart : (suite.map Lint.name).Nodup := by decide
  exact List.inj_on_of_nodup_map apart one other same

/-- A finding under the name of a lint comes from that lint. -/
theorem mem_check_of_source {lint : Lint} (listed : lint ∈ suite) {model : DataModel}
    {finding : Diagnostic} (mem : finding ∈ findings suite model)
    (source : finding.source = lint.name) : finding ∈ lint.check model := by
  obtain ⟨other, among, here⟩ := List.mem_flatMap.1 mem
  have same : other = lint :=
    eq_of_name_eq among listed ((source_of_mem_check among here).symm.trans source)
  exact same ▸ here

/-! ## What reading has refused -/

/-- A finding about something that reading refuses, whoever it is about and wherever it is. -/
inductive RefusedByReading : Diagnostic → Prop where
  | badIdentifier (kind name : String) (fault : Java.IdentifierFault) (severity : Severity)
      (location : Option String) :
      RefusedByReading ⟨severity, "identifier",
        s!"{kind} '{name}' is not a valid Java identifier: {fault.reason}", location⟩
  | noPackage (name : String) (severity : Severity) (location : Option String) :
      RefusedByReading ⟨severity, "reserved-name",
        s!"invalid qualified name '{name}': a package is required", location⟩
  | fieldRepeated (field : String) (severity : Severity) (location : Option String) :
      RefusedByReading ⟨severity, "duplicate-field",
        s!"field '{field}' is declared more than once", location⟩
  | constraintEmpty (constraint : String) (severity : Severity) (location : Option String) :
      RefusedByReading ⟨severity, "unique-constraint",
        s!"unique constraint '{constraint}' has no fields", location⟩
  | constraintDangling (constraint field : String) (severity : Severity)
      (location : Option String) :
      RefusedByReading ⟨severity, "unique-constraint",
        s!"unique constraint '{constraint}' references unknown field '{field}'", location⟩

/-- A well-formed object has a package. -/
theorem typeNameFault?_ne_noPackage {object : BusinessObject} (formed : WellFormedObject object) :
    Blueprint.typeNameFault? object.qualifiedName ≠ some .noPackage := by
  have packaged : (Naming.namespaceOf object.qualifiedName).isEmpty = false := by
    have dotted : '.' ∈ object.qualifiedName.toList :=
      Text.mem_iff_two_le_length_split.2 formed.packaged
    cases cut : Text.cutAtLast '.' object.qualifiedName.toList with
    | none => exact absurd dotted (Text.cutAtLast_eq_none_iff.1 cut)
    | some parts =>
      obtain ⟨before, after⟩ := parts
      have whole := (Text.cutAtLast_eq_some_iff.1 cut).1
      cases before with
      | nil =>
        -- With nothing before the last dot the first segment would be empty.
        have first : "" ∈ Text.split '.' object.qualifiedName := by
          simp [Text.split, whole, Text.piecesAt]
        have legal := formed.segments "" first
        exact absurd legal (by decide)
      | cons c rest =>
        rw [Naming.namespaceOf, cut]
        simp
  unfold Blueprint.typeNameFault?
  rw [if_neg (by simp [packaged])]
  split
  · simp
  · split
    · simp
    · simp

theorem ReservedName.not_refused {object : BusinessObject} (formed : WellFormedObject object)
    {finding : Diagnostic} (mem : finding ∈ ReservedName.check object) (name : String) :
    finding.message ≠ s!"invalid qualified name '{name}': a package is required" := by
  unfold ReservedName.check Blueprint.checkTypeName at mem
  cases found : Blueprint.typeNameFault? object.qualifiedName with
  | none =>
    rw [found] at mem
    exact absurd mem List.not_mem_nil
  | some fault =>
    rw [found] at mem
    rw [List.mem_singleton.1 mem]
    cases fault with
    | noPackage => exact absurd found (typeNameFault?_ne_noPackage formed)
    | reservedPackage =>
      exact Text.append_ne_append (t := "the java and javax packages are reserved") 4
        (by decide) (by decide) (by decide)
    | builtIn simpleName =>
      show s!"invalid qualified name '{object.qualifiedName}': " ++
        (s!"'{simpleName}" ++ "' collides with a built-in type") ≠ _
      rw [← String.append_assoc]
      exact Text.append_ne_append 4 (by decide) (by decide) (by decide)

theorem Identifier.not_refused {object : BusinessObject} (formed : WellFormedObject object)
    {finding : Diagnostic} (mem : finding ∈ Identifier.check object) (kind name : String)
    (fault : Java.IdentifierFault) :
    finding.message ≠ s!"{kind} '{name}' is not a valid Java identifier: {fault.reason}" := by
  have queries : object.queries.flatMap (Identifier.checkQuery object) = [] := by
    rw [List.flatMap_eq_nil_iff]
    intro query listed
    rw [Identifier.checkQuery_eq_nil_iff]
    exact ⟨formed.queries query listed, formed.parameters query listed⟩
  rw [Identifier.check, queries, List.append_nil] at mem
  obtain ⟨field, listed, here⟩ := List.mem_flatMap.1 mem
  simp only [Identifier.checkField, Identifier.checkName_eq_nil_iff.2 (formed.fields field listed),
    Identifier.checkAccessors] at here
  -- What is left is about accessors that every object has, and says so up to the parentheses.
  split at here
  · rename_i accessor _
    rw [List.mem_singleton.1 here]
    have ends : ∀ reason : String, 1 ≤ reason.toList.length →
        "()".toList.reverse.take 1 ≠ reason.toList.reverse.take 1 →
        (s!"field '{field.name}' generates accessor '{accessor}', which clashes with " ++
          s!"Object.{accessor}") ++ "()" ≠
            s!"{kind} '{name}' is not a valid Java identifier: " ++ reason := by
      intro reason long apart
      exact Text.append_ne_append 1 (by decide) long apart
    have close := ends fault.reason (by cases fault <;> decide) (by cases fault <;> decide)
    rwa [String.append_assoc] at close
  · exact absurd here List.not_mem_nil

theorem DuplicateField.not_refused_of_mem_clashes {object : BusinessObject}
    {fields : List Field} {earlier : List String}
    (apart : (earlier ++ fields.map Field.name).Nodup) {finding : Diagnostic}
    (mem : finding ∈ DuplicateField.clashes object earlier fields) (name : String) :
    finding.message ≠ s!"field '{name}' is declared more than once" := by
  induction fields generalizing earlier with
  | nil => exact absurd mem List.not_mem_nil
  | cons field rest ih =>
    have later : (earlier ++ rest.map Field.name).Nodup :=
      apart.sublist (List.Sublist.append_left (List.sublist_cons_self _ _) _)
    unfold DuplicateField.clashes at mem
    simp only at mem
    split at mem
    · rcases List.mem_cons.1 mem with rfl | mem
      · exact Text.append_ne_append (t := "' field") 1 (by decide) (by decide) (by decide)
      · exact ih later mem
    · split at mem
      · rename_i first found
        have different : (first == field.name) = false := by
          have met := List.mem_of_find?_eq_some found
          simpa using (List.nodup_append.1 apart).2.2 first met field.name List.mem_cons_self
        rcases List.mem_cons.1 mem with rfl | mem
        · rw [DuplicateField.repeated, different]
          exact Text.append_ne_append (t := "' generate the same accessors") 1 (by decide)
            (by decide) (by decide)
        · exact ih later mem
      · refine ih ?_ mem
        simpa using apart

theorem UniqueConstraint.not_refused_of_mem_checkAll {object : BusinessObject}
    {constraints : List Model.UniqueConstraint}
    (filled : ∀ constraint ∈ constraints, constraint.fields ≠ [])
    (declared : ∀ constraint ∈ constraints, ∀ name ∈ constraint.fields,
      ∃ field ∈ object.fields, field.name = name)
    {earlier : List String} {finding : Diagnostic}
    (mem : finding ∈ UniqueConstraint.checkAll object earlier constraints) :
    ∃ constraint : String,
      finding.message = s!"unique constraint '{constraint}' is declared more than once" := by
  induction constraints generalizing earlier with
  | nil => exact absurd mem List.not_mem_nil
  | cons constraint rest ih =>
    rcases List.mem_append.1 mem with here | later
    · have whole : constraint.fields.isEmpty = false := by
        simpa using filled constraint List.mem_cons_self
      have known : constraint.fields.filter (fun field => (object.field? field).isNone) = [] := by
        rw [List.filter_eq_nil_iff]
        intro name listed missing
        obtain ⟨field, member, named⟩ := declared constraint List.mem_cons_self name listed
        exact Model.Scope.isNone_field?_iff.1 missing (List.mem_map.2 ⟨field, member, named⟩)
      simp only [UniqueConstraint.checkOne, whole, known] at here
      refine ⟨constraint.name, ?_⟩
      split at here
      · simp only [Bool.false_eq_true, if_false, List.append_nil, List.map_nil] at here
        rw [List.mem_singleton.1 here, UniqueConstraint.finding]
      · exact absurd here (by simp)
    · exact ih (fun other listed => filled other (List.mem_cons_of_mem _ listed))
        (fun other listed => declared other (List.mem_cons_of_mem _ listed)) later

theorem repeated_ne_empty (one other : String) :
    s!"unique constraint '{one}' is declared more than once" ≠
      s!"unique constraint '{other}' has no fields" :=
  Text.append_ne_append 1 (by decide) (by decide) (by decide)

theorem repeated_ne_dangling (one other field : String) :
    s!"unique constraint '{one}' is declared more than once" ≠
      s!"unique constraint '{other}' references unknown field '{field}'" :=
  Text.append_ne_append 1 (by decide) (by decide) (by decide)

/-- The checks find nothing in well-formed objects that reading would have refused. -/
theorem not_refusedByReading {model : DataModel} (formed : WellFormed model.objects)
    {finding : Diagnostic} (mem : finding ∈ findings suite model) :
    ¬RefusedByReading finding := by
  have perObject : ∀ {check : BusinessObject → List Diagnostic} {name description : String},
      .perObject name description check ∈ suite → finding.source = name →
      ∃ object, WellFormedObject object ∧ finding ∈ check object := by
    intro check name description listed source
    obtain ⟨object, member, here⟩ := List.mem_flatMap.1 (mem_check_of_source listed mem source)
    exact ⟨object, formed.each object member, here⟩
  intro refused
  cases refused with
  | badIdentifier kind name fault severity location =>
    obtain ⟨object, good, here⟩ := perObject (show identifier ∈ suite by simp [suite]) rfl
    exact Identifier.not_refused good here kind name fault rfl
  | noPackage name severity location =>
    obtain ⟨object, good, here⟩ := perObject (show reservedName ∈ suite by simp [suite]) rfl
    exact ReservedName.not_refused good here name rfl
  | fieldRepeated field severity location =>
    obtain ⟨object, good, here⟩ := perObject (show duplicateField ∈ suite by simp [suite]) rfl
    exact DuplicateField.not_refused_of_mem_clashes good.fieldsApart here field rfl
  | constraintEmpty constraint severity location =>
    obtain ⟨object, good, here⟩ := perObject (show uniqueConstraint ∈ suite by simp [suite]) rfl
    obtain ⟨other, message⟩ := UniqueConstraint.not_refused_of_mem_checkAll
      good.constraintsFilled good.constraintsDeclared here
    exact repeated_ne_empty other constraint message.symm
  | constraintDangling constraint field severity location =>
    obtain ⟨object, good, here⟩ := perObject (show uniqueConstraint ∈ suite by simp [suite]) rfl
    obtain ⟨other, message⟩ := UniqueConstraint.not_refused_of_mem_checkAll
      good.constraintsFilled good.constraintsDeclared here
    exact repeated_ne_dangling other constraint field message.symm

end Lint

namespace Model

/-! ## Faults of reading -/

/-- Enrolling never fails while reading, whatever the source is. -/
theorem read_ne_duplicateObject (source : Source) (name : String) :
    DataModel.read source ≠ .error (.duplicateObject name) := by
  intro refused
  unfold DataModel.read at refused
  cases found : readObjects source with
  | ok objects =>
    rw [found] at refused
    have first := accept_eq_error_iff.1 (show DataModel.accept source objects = _ from refused)
    exact nomatch source?_of_mem_violations (List.mem_of_mem_head? first)
  | error fault =>
    rw [found] at refused
    have same : fault = .duplicateObject name := Except.error.inj refused
    -- What no objects can be read from is malformed.
    have malformed : ∃ cause, fault = .malformed source cause := by
      unfold readObjects at found
      split at found
      · exact ⟨_, (Except.error.inj found).symm⟩
      · split at found
        · exact ⟨_, (Except.error.inj found).symm⟩
        · cases found
    obtain ⟨cause, other⟩ := malformed
    cases same.symm.trans other

/-! ## Main result -/

/-- A source is read as a model exactly if its business objects are well-formed. The model has these
objects in their order, and no check of it finds anything that reading refuses. Otherwise the fault
is the first violation in the order of the rules, and never that an object cannot be enrolled. -/
theorem reading_exact (source : Source) (objects : List BusinessObject) :
    (readObjects source = .ok objects →
      DataModel.read source = DataModel.accept source objects) ∧
    ((∃ model, DataModel.accept source objects = .ok model) ↔ WellFormed objects) ∧
    (∀ model, DataModel.accept source objects = .ok model →
      model.objects = objects ∧
      ∀ variant, ∀ finding ∈ (Compile.check variant model).diagnostics,
        ¬Lint.RefusedByReading finding) ∧
    (∀ fault, DataModel.accept source objects = .error fault ↔
      (violations source objects).head? = some fault) ∧
    ∀ name, DataModel.accept source objects ≠ .error (.duplicateObject name) ∧
      DataModel.read source ≠ .error (.duplicateObject name) := by
  refine ⟨fun found => ?_, ⟨fun accepted => ?_, fun formed => ?_⟩, fun model accepted => ?_,
    fun fault => accept_eq_error_iff, fun name => ⟨fun refused => ?_, read_ne_duplicateObject _ _⟩⟩
  · rw [DataModel.read, found]
    rfl
  · obtain ⟨model, accepted⟩ := accepted
    exact (accept_eq_ok_iff.1 accepted).1
  · obtain ⟨model, -, items⟩ := exists_ofObjects_eq_ok formed.apart
    exact ⟨model, accept_eq_ok_iff.2 ⟨formed, items⟩⟩
  · obtain ⟨formed, items⟩ := accept_eq_ok_iff.1 accepted
    refine ⟨items, fun variant finding mem => ?_⟩
    have formed' : WellFormed model.objects := items.symm ▸ formed
    exact Lint.not_refusedByReading formed' mem
  · have first := accept_eq_error_iff.1 refused
    exact nomatch source?_of_mem_violations (List.mem_of_mem_head? first)

/-- An object with a field and a unique constraint of this one. -/
def lease : BusinessObject :=
  ⟨"org.acme.Lease", none, [⟨"tenant", .string, true, none⟩], [], [⟨"once", ["tenant"]⟩]⟩

/-- A source of this object. -/
def leaseSource : Source :=
  ⟨"[[business_objects]]\nqualified_name = \"org.acme.Lease\"\n" ++
    "[[business_objects.fields]]\nname = \"tenant\"\ntype = \"STRING\"\n" ++
    "[[business_objects.unique_constraints]]\nname = \"once\"\nfields = [\"tenant\"]\n",
    "bom.toml"⟩

/-- The object with a second constraint, of a field that it does not have. -/
def danglingLease : BusinessObject :=
  lease.addUniqueConstraint ⟨"twice", ["tenant", "owner"]⟩

theorem reading_exact_lease :
    readObjects leaseSource = .ok [lease] ∧ WellFormed [lease] ∧
      (∃ model, DataModel.read leaseSource = .ok model ∧ model.objects = [lease] ∧
        ∀ finding ∈ (Compile.check .server model).diagnostics, ¬Lint.RefusedByReading finding) ∧
      DataModel.accept leaseSource [danglingLease] =
        .error (.invalid leaseSource none (.constraintDangling "twice" "owner")) := by
  have found : readObjects leaseSource = .ok [lease] := by decide +kernel
  have formed : WellFormed [lease] := by
    refine ⟨by decide, fun object mem => ?_⟩
    obtain rfl := List.mem_singleton.1 mem
    exact ⟨by decide, by decide, by decide, by decide, by decide, by decide, by decide, by decide,
      by decide⟩
  have first : (violations leaseSource [danglingLease]).head? =
      some (.invalid leaseSource none (.constraintDangling "twice" "owner")) := by decide +kernel
  obtain ⟨reads, accepts, whole, -⟩ := reading_exact leaseSource [lease]
  obtain ⟨-, -, -, refuses, -⟩ := reading_exact leaseSource [danglingLease]
  obtain ⟨model, accepted⟩ := accepts.2 formed
  obtain ⟨items, harmless⟩ := whole model accepted
  exact ⟨found, formed, ⟨model, (reads found).trans accepted, items, harmless .server⟩,
    (refuses _).2 first⟩

end Model

end EntityGen
