/-
  Proofs/Model/Accepted.lean --- sources that make a model.

  Source: the specification, section 7 (taxonomy, model validation), read as a predicate on
  business objects.

  What the business objects of a source are like if no rule is broken, and that reading
  accepts exactly these. Objects that are accepted become the model as they are and in their
  order; otherwise the fault is the first violation. Enrolling them cannot fail any more,
  because the rules have looked for repeated names before.
-/
import EntityGen.Proofs.Java.Identifier
import EntityGen.Proofs.Model.Violations
import Mathlib.Data.List.Induction
import Mathlib.Data.List.Nodup

set_option autoImplicit false

namespace EntityGen

namespace Text

/-- There is one piece more than there are marks. -/
theorem length_piecesAt (mark : Char) (cs : List Char) :
    (piecesAt mark cs).length = cs.count mark + 1 := by
  induction cs with
  | nil => rfl
  | cons c rest ih =>
    unfold piecesAt
    split
    · rename_i hit
      simp [hit, ih]
    · rename_i miss
      split
      · rename_i none
        simp [none] at ih
      · rename_i piece more some
        rw [some] at ih
        simpa [miss] using ih

theorem mem_iff_two_le_length_split {mark : Char} {s : String} :
    mark ∈ s.toList ↔ 2 ≤ (split mark s).length := by
  rw [split, List.length_map, length_piecesAt, ← List.count_pos_iff]
  omega

end Text

namespace Model

/-! ## Well-formed objects -/

/-- What reading asks of one business object. -/
structure WellFormedObject (object : BusinessObject) : Prop where
  packaged : 2 ≤ (Text.split '.' object.qualifiedName).length
  segments : ∀ segment ∈ Text.split '.' object.qualifiedName, Java.isIdentifier segment = true
  fields : ∀ field ∈ object.fields, Java.isIdentifier field.name = true
  fieldsApart : (object.fields.map Field.name).Nodup
  queries : ∀ query ∈ object.queries, Java.isIdentifier query.name = true
  queriesApart : (object.queries.map Query.name).Nodup
  parameters : ∀ query ∈ object.queries, ∀ parameter ∈ query.parameters,
    Java.isIdentifier parameter.name = true
  constraintsFilled : ∀ constraint ∈ object.uniqueConstraints, constraint.fields ≠ []
  constraintsDeclared : ∀ constraint ∈ object.uniqueConstraints, ∀ name ∈ constraint.fields,
    ∃ field ∈ object.fields, field.name = name

/-- What reading asks of the business objects of a source. -/
structure WellFormed (objects : List BusinessObject) : Prop where
  apart : (objects.map BusinessObject.qualifiedName).Nodup
  each : ∀ object ∈ objects, WellFormedObject object

/-! ## Items one after the other -/

/-- An item has a fault exactly if it has one together with the items before it. -/
theorem faultsOfEach_eq_nil_iff {α : Type} {faultsOf : List α → α → List ModelFault}
    {items : List α} :
    faultsOfEach faultsOf items = [] ↔
      ∀ before item after, items = before ++ item :: after → faultsOf before item = [] := by
  unfold faultsOfEach
  rw [List.flatMap_eq_nil_iff]
  constructor
  · intro silent before item after whole
    have mem : (item, before.length) ∈ items.zipIdx := by
      rw [List.mem_zipIdx_iff_getElem?]
      simp [whole]
    have here := silent _ mem
    have start : items.take before.length = before := by rw [whole, List.take_left' rfl]
    rwa [start] at here
  · intro silent entry mem
    obtain ⟨item, index⟩ := entry
    have found := List.mem_zipIdx_iff_getElem?.1 mem
    obtain ⟨inside, here⟩ := List.getElem?_eq_some_iff.1 found
    have tail : items.drop index = item :: items.drop (index + 1) := by
      rw [List.drop_eq_getElem_cons inside]
      exact congrArg (· :: _) here
    refine silent _ item (items.drop (index + 1)) ?_
    rw [← tail, List.take_append_drop]

/-- Names are pairwise distinct if none of them was met before. -/
theorem nodup_of_forall_new {α : Type} {name : α → String} {items : List α}
    (new : ∀ before item after, items = before ++ item :: after → name item ∉ before.map name) :
    (items.map name).Nodup := by
  induction items using List.reverseRecOn with
  | nil => exact List.nodup_nil
  | append_singleton items last ih =>
    have apart : (items.map name).Nodup := by
      apply ih
      intro before item after whole
      exact new before item (after ++ [last]) (by simp [whole])
    have fresh : name last ∉ items.map name := new items last [] rfl
    rw [List.map_append, List.map_singleton, ← List.concat_eq_append]
    exact apart.concat fresh

/-- Items with faults of their own, and a fault for every repeated name, have none exactly if their
names are pairwise distinct and each of them has none. -/
theorem faultsOfEach_named_eq_nil_iff {α : Type} {faultsOf : List α → α → List ModelFault}
    {name : α → String} {Good : α → Prop}
    (each : ∀ before item, faultsOf before item = [] ↔ name item ∉ before.map name ∧ Good item)
    (items : List α) :
    faultsOfEach faultsOf items = [] ↔ (items.map name).Nodup ∧ ∀ item ∈ items, Good item := by
  rw [faultsOfEach_eq_nil_iff]
  constructor
  · intro silent
    have new : ∀ before item after, items = before ++ item :: after →
        name item ∉ before.map name := by
      intro before item after whole
      exact ((each before item).1 (silent before item after whole)).1
    refine ⟨nodup_of_forall_new new, ?_⟩
    intro item mem
    obtain ⟨before, after, whole⟩ := List.append_of_mem mem
    exact ((each before item).1 (silent before item after whole)).2
  · rintro ⟨apart, good⟩ before item after rfl
    refine (each before item).2 ⟨?_, good item (by simp)⟩
    intro met
    rw [List.map_append, List.map_cons] at apart
    exact (List.nodup_append.1 apart).2.2 _ met _ List.mem_cons_self rfl

/-! ## Objects without violations -/

namespace Scope

variable {scope : Scope}

theorem wordFaults_eq_nil_iff {name : String} {keyword : ModelFault}
    {badName : NameFault → ModelFault} :
    wordFaults name keyword badName = [] ↔ Java.isIdentifier name = true := by
  unfold wordFaults
  constructor
  · intro silent
    have legal := (List.append_eq_nil_iff.1 silent).2
    simpa [Java.isIdentifier] using legal
  · intro legal
    have notKeyword : Java.isKeyword name = false := by
      obtain ⟨first, rest, -, -, -, new⟩ := Java.isIdentifier_iff.1 legal
      simpa [Java.isKeyword] using new
    have noFault : Java.identifierFault? name = none := by simpa [Java.isIdentifier] using legal
    simp [notKeyword, noFault]

theorem repeatedFaults_eq_nil_iff {taken : List String} {name : String} {fault : ModelFault} :
    repeatedFaults taken name fault = [] ↔ name ∉ taken := by
  unfold repeatedFaults
  by_cases met : name ∈ taken
  · simp [met]
  · simp [met]

theorem qualifiedNameFaults_eq_nil_iff {qualifiedName kind : String} :
    scope.qualifiedNameFaults qualifiedName kind = [] ↔
      2 ≤ (Text.split '.' qualifiedName).length ∧
        ∀ segment ∈ Text.split '.' qualifiedName, Java.isIdentifier segment = true := by
  unfold qualifiedNameFaults
  simp only [List.append_eq_nil_iff, List.flatMap_eq_nil_iff, wordFaults_eq_nil_iff,
    ← Text.mem_iff_two_le_length_split]
  by_cases dotted : '.' ∈ qualifiedName.toList
  · simp [dotted]
  · simp [dotted]

theorem fieldFaults_eq_nil_iff {before : List Field} {field : Field} :
    scope.fieldFaults before field = [] ↔
      field.name ∉ before.map Field.name ∧ Java.isIdentifier field.name = true := by
  rw [fieldFaults, List.append_eq_nil_iff, nameFaults, wordFaults_eq_nil_iff,
    repeatedFaults_eq_nil_iff, and_comm]

theorem queryFaults_eq_nil_iff {before : List Query} {query : Query} :
    scope.queryFaults before query = [] ↔
      query.name ∉ before.map Query.name ∧ Java.isIdentifier query.name = true ∧
        ∀ parameter ∈ query.parameters, Java.isIdentifier parameter.name = true := by
  simp only [queryFaults, List.append_eq_nil_iff, List.flatMap_eq_nil_iff, nameFaults,
    wordFaults_eq_nil_iff, repeatedFaults_eq_nil_iff]
  rw [and_comm (a := Java.isIdentifier query.name = true), and_assoc]

theorem constraintFaults_eq_nil_iff {object : BusinessObject} {constraint : UniqueConstraint} :
    scope.constraintFaults object constraint = [] ↔
      constraint.fields ≠ [] ∧
        ∀ name ∈ constraint.fields, ∃ field ∈ object.fields, field.name = name := by
  unfold constraintFaults
  simp only [List.append_eq_nil_iff, List.flatMap_eq_nil_iff, ite_eq_left_iff, ite_eq_right_iff,
    List.cons_ne_nil, imp_false, not_not, List.mem_map, ne_eq]

theorem objectFaults_eq_nil_iff {before : List BusinessObject} {object : BusinessObject} :
    scope.objectFaults before object = [] ↔
      object.qualifiedName ∉ before.map BusinessObject.qualifiedName ∧
        WellFormedObject object := by
  simp only [objectFaults, List.append_eq_nil_iff, qualifiedNameFaults_eq_nil_iff,
    repeatedFaults_eq_nil_iff, List.flatMap_eq_nil_iff, constraintFaults_eq_nil_iff,
    faultsOfEach_named_eq_nil_iff (fun _ _ => fieldFaults_eq_nil_iff),
    faultsOfEach_named_eq_nil_iff (fun _ _ => queryFaults_eq_nil_iff)]
  constructor
  · rintro ⟨⟨⟨⟨⟨packaged, segments⟩, fresh⟩, fieldsApart, fields⟩, queriesApart, queries⟩,
      constraints⟩
    exact ⟨fresh, packaged, segments, fields, fieldsApart, fun query mem => (queries query mem).1,
      queriesApart, fun query mem => (queries query mem).2,
      fun constraint mem => (constraints constraint mem).1,
      fun constraint mem => (constraints constraint mem).2⟩
  · rintro ⟨fresh, formed⟩
    exact ⟨⟨⟨⟨⟨formed.packaged, formed.segments⟩, fresh⟩, formed.fieldsApart, formed.fields⟩,
      formed.queriesApart, fun query mem => ⟨formed.queries query mem, formed.parameters query mem⟩⟩,
      fun constraint mem => ⟨formed.constraintsFilled constraint mem,
        formed.constraintsDeclared constraint mem⟩⟩

end Scope

theorem violations_eq_nil_iff {source : Source} {objects : List BusinessObject} :
    violations source objects = [] ↔ WellFormed objects := by
  unfold violations
  rw [faultsOfEach_named_eq_nil_iff fun _ _ => Scope.objectFaults_eq_nil_iff]
  exact ⟨fun ⟨apart, each⟩ => ⟨apart, each⟩, fun ⟨apart, each⟩ => ⟨apart, each⟩⟩

/-! ## Models -/

/-- Objects with names of their own are enrolled one after the other. -/
theorem exists_foldlM_add_eq_ok {objects : List BusinessObject} {model : DataModel}
    (apart : (model.names ++ objects.map BusinessObject.qualifiedName).Nodup) :
    ∃ more, objects.foldlM DataModel.add model = .ok more ∧
      more.objects = model.objects ++ objects := by
  induction objects generalizing model with
  | nil => exact ⟨model, rfl, by simp⟩
  | cons object rest ih =>
    have fresh : object.qualifiedName ∉ model.names := by
      intro taken
      exact (List.nodup_append.1 apart).2.2 _ taken _ List.mem_cons_self rfl
    obtain ⟨next, enrolled⟩ := Option.ne_none_iff_exists'.1 (mt Roster.enroll?_eq_none_iff.1 fresh)
    have items := (Roster.enroll?_eq_some_iff.1 enrolled).2
    have added : DataModel.add model object = .ok next := by rw [DataModel.add, enrolled]
    have names : next.names = model.names ++ [object.qualifiedName] := by
      simp [Roster.names, items]
    have apart' : (next.names ++ rest.map BusinessObject.qualifiedName).Nodup := by
      simpa [names] using apart
    obtain ⟨more, folded, all⟩ := ih apart'
    refine ⟨more, ?_, ?_⟩
    · rw [List.foldlM_cons, added]
      exact folded
    · rw [all, DataModel.objects, items, List.append_assoc, List.singleton_append]

/-- Objects with names of their own are the objects of a model, in their order. -/
theorem exists_ofObjects_eq_ok {objects : List BusinessObject}
    (apart : (objects.map BusinessObject.qualifiedName).Nodup) :
    ∃ model, DataModel.ofObjects objects = .ok model ∧ model.objects = objects :=
  exists_foldlM_add_eq_ok (show ((Roster.empty : DataModel).names ++ _).Nodup from apart)

/-- Accepting fails with the first violation, or makes a model of the objects as they are. -/
theorem accept_eq_ok_iff {source : Source} {objects : List BusinessObject} {model : DataModel} :
    DataModel.accept source objects = .ok model ↔
      WellFormed objects ∧ model.objects = objects := by
  unfold DataModel.accept
  rw [bind_eq_ok_iff, checkObjects_eq_failFirst]
  constructor
  · rintro ⟨⟨⟩, silent, made⟩
    have formed := violations_eq_nil_iff.1 (failFirst_eq_ok_iff.1 silent)
    obtain ⟨more, enrolled, all⟩ := exists_ofObjects_eq_ok formed.apart
    rw [enrolled] at made
    exact ⟨formed, Except.ok.inj made ▸ all⟩
  · rintro ⟨formed, items⟩
    obtain ⟨more, enrolled, all⟩ := exists_ofObjects_eq_ok formed.apart
    have same : more = model := by
      cases more
      cases model
      simp_all [DataModel.objects]
    exact ⟨(), failFirst_eq_ok_iff.2 (violations_eq_nil_iff.2 formed), same ▸ enrolled⟩

theorem accept_eq_error_iff {source : Source} {objects : List BusinessObject}
    {fault : ModelFault} :
    DataModel.accept source objects = .error fault ↔
      (violations source objects).head? = some fault := by
  constructor
  · intro refused
    cases found : violations source objects with
    | nil =>
      have formed := violations_eq_nil_iff.1 found
      obtain ⟨more, -, all⟩ := exists_ofObjects_eq_ok formed.apart
      have accepted : DataModel.accept source objects = .ok more :=
        accept_eq_ok_iff.2 ⟨formed, all⟩
      rw [accepted] at refused
      cases refused
    | cons first rest =>
      rw [DataModel.accept, checkObjects_eq_failFirst, found] at refused
      exact congrArg some (Except.error.inj refused)
  · intro first
    rw [DataModel.accept, checkObjects_eq_failFirst, failFirst_eq_error_iff.2 first]
    rfl

end Model

end EntityGen
