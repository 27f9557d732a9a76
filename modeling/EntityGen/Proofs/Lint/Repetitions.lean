/-
  Proofs/Lint/Repetitions.lean --- repetitions in access interfaces.

  Source: the specification, section 4.4: duplicate method names are fatal at build time,
  and section 7: lints find them before.

  An access interface is told three times: as an outline of names, as the methods that are
  made, and by what is found in them. The three agree: an interface is made exactly if
  nothing is found, its methods are those of the outline, and where it cannot be made, the
  reason is among the findings. Each name that several methods have is found once, however
  often it occurs, and each method that repeats the name of a parameter is found once.
-/
import EntityGen.Proofs.Lint.Silence
import Mathlib.Data.List.Dedup

set_option autoImplicit false

namespace EntityGen.Lint.DaoMethod

open EntityGen.Blueprint (ClassFault ClassSpec Method MethodParameter ConstraintsDeclared
  checkTypeName daoInterface daoMethodNames daoName daoOutline firstRepeated)
open EntityGen.Model (BusinessObject)

/-! ## Findings -/

/-- Where the methods of a name are. -/
def location (object : BusinessObject) (method : String) : String :=
  s!"{object.qualifiedName}.queries.{method}"

/-- What is found of a name that several methods have. -/
def methodFinding (object : BusinessObject) (method : String) : Diagnostic :=
  ⟨.error, name, methodMessage (daoName object) method, some (location object method)⟩

/-- What is found of a method that repeats the name of a parameter. -/
def parameterFinding (object : BusinessObject) (method parameter : String) : Diagnostic :=
  ⟨.error, name, parameterMessage (daoName object) method parameter, some (location object method)⟩

/-- What is said of a method is what the interface fails with. -/
theorem message_duplicateDaoMethod (dao method : String) :
    (ClassFault.duplicateDaoMethod dao method).message = methodMessage dao method :=
  rfl

/-- What is said of a parameter is what the interface fails with. -/
theorem message_duplicateParameter (dao method parameter : String) :
    (ClassFault.duplicateParameter dao method parameter).message =
      parameterMessage dao method parameter :=
  rfl

/-- The names that occur at least twice, each once. -/
def repeatedNames (names : List String) : List String :=
  names.dedup.filter fun name => 2 ≤ names.count name

/-! ## Names of methods -/

/-- The names that are met for the second time, given the names that were met before. -/
def metTwice (earlier : List String) : List String → List String
  | [] => []
  | name :: rest =>
    (if earlier.count name == 1 then [name] else []) ++ metTwice (name :: earlier) rest

/-- A name is met for the second time once, if it was not before and occurs twice in all. -/
theorem count_metTwice {earlier names : List String} {name : String} :
    (metTwice earlier names).count name =
      if earlier.count name ≤ 1 ∧ 2 ≤ earlier.count name + names.count name then 1 else 0 := by
  induction names generalizing earlier with
  | nil =>
    rw [metTwice, List.count_nil, if_neg]
    omega
  | cons first rest ih =>
    rw [metTwice, List.count_append, ih]
    by_cases own : first = name
    · subst own
      rw [List.count_cons_self, List.count_cons_self]
      by_cases once : earlier.count first = 1
      · rw [if_pos (beq_iff_eq.2 once), List.count_singleton_self, if_neg (by omega),
          if_pos (by omega)]
      · rw [if_neg (mt beq_iff_eq.1 once), List.count_nil, Nat.zero_add]
        have same : earlier.count first + 1 ≤ 1 ∧
              2 ≤ earlier.count first + 1 + rest.count first ↔
            earlier.count first ≤ 1 ∧ 2 ≤ earlier.count first + (rest.count first + 1) := by
          omega
        rw [if_congr same rfl rfl]
    · have other : (if earlier.count first == 1 then [first] else []).count name = 0 := by
        apply List.count_eq_zero_of_not_mem
        intro mem
        split at mem
        · exact own (List.mem_singleton.1 mem).symm
        · exact List.not_mem_nil mem
      rw [other, List.count_cons_of_ne own, List.count_cons_of_ne own, Nat.zero_add]

/-- The names that are met for the second time are those that occur at least twice. -/
theorem metTwice_perm_repeatedNames (names : List String) :
    (metTwice [] names).Perm (repeatedNames names) := by
  apply List.perm_iff_count.2
  intro name
  rw [count_metTwice, repeatedNames]
  by_cases twice : 2 ≤ names.count name
  · have mem : name ∈ names := List.count_pos_iff.1 (by omega)
    rw [List.count_filter (by simpa using twice), List.count_dedup, if_pos mem, List.count_nil,
      if_pos ⟨by omega, by omega⟩]
  · have unlisted : name ∉ names.dedup.filter fun name => 2 ≤ names.count name := by
      intro mem
      exact twice (by simpa using (List.mem_filter.1 mem).2)
    rw [List.count_eq_zero_of_not_mem unlisted, List.count_nil, if_neg]
    omega

/-! ## What is found -/

theorem checkMethods_cons {object : BusinessObject} {earlier : List String}
    {method : String × List String} {rest : List (String × List String)} :
    checkMethods object earlier (method :: rest) =
      checkParameters (daoName object) (location object method.1) method.1 method.2 ++
        (if earlier.count method.1 == 1 then [methodFinding object method.1] else []) ++
        checkMethods object (method.1 :: earlier) rest :=
  rfl

/-- The findings are those of the names that are met for the second time and those of the methods
that repeat the name of a parameter. -/
theorem checkMethods_perm (object : BusinessObject) (earlier : List String)
    (methods : List (String × List String)) :
    (checkMethods object earlier methods).Perm
      ((metTwice earlier (methods.map Prod.fst)).map (methodFinding object) ++
        methods.flatMap fun method =>
          checkParameters (daoName object) (location object method.1) method.1 method.2) := by
  induction methods generalizing earlier with
  | nil => exact .refl []
  | cons method rest ih =>
    have second : (if earlier.count method.1 == 1 then [method.1] else []).map
          (methodFinding object) =
        if earlier.count method.1 == 1 then [methodFinding object method.1] else [] := by
      split
      · rfl
      · rfl
    apply List.perm_iff_count.2
    intro finding
    rw [checkMethods_cons, List.map_cons, metTwice, List.map_append, second, List.flatMap_cons]
    have later := (ih (method.1 :: earlier)).count_eq finding
    simp only [List.count_append] at later ⊢
    omega

/-- A method that repeats the name of a parameter is found with such a name. -/
theorem exists_checkParameters {dao location method : String} {parameters : List String}
    (repeating : ¬ parameters.Nodup) :
    ∃ parameter, 2 ≤ parameters.count parameter ∧
      checkParameters dao location method parameters =
        [⟨.error, name, parameterMessage dao method parameter, some location⟩] := by
  obtain ⟨parameter, met, twice⟩ := Blueprint.exists_firstRepeated repeating
  refine ⟨parameter, twice, ?_⟩
  rw [checkParameters, met]

/-- One finding for each method that repeats the name of a parameter, in order. -/
theorem parameterFindings_exact (object : BusinessObject) (methods : List (String × List String)) :
    List.Forall₂
      (fun method finding => ∃ parameter, 2 ≤ method.2.count parameter ∧
        finding = parameterFinding object method.1 parameter)
      (methods.filter fun method => ¬ method.2.Nodup)
      (methods.flatMap fun method =>
        checkParameters (daoName object) (location object method.1) method.1 method.2) := by
  induction methods with
  | nil => exact .nil
  | cons method rest ih =>
    rw [List.flatMap_cons]
    by_cases apart : method.2.Nodup
    · rw [List.filter_cons_of_neg (by simpa using apart), checkParameters_eq_nil_iff.2 apart]
      exact ih
    · obtain ⟨parameter, twice, found⟩ := exists_checkParameters apart
      rw [List.filter_cons_of_pos (by simpa using apart), found]
      exact .cons ⟨parameter, twice, rfl⟩ ih

/-- Every name that several methods have is found. -/
theorem methodFinding_mem_check {object : BusinessObject} {method : String}
    (twice : 2 ≤ (daoMethodNames object).count method) :
    methodFinding object method ∈ check object := by
  have met : method ∈ metTwice [] (daoMethodNames object) := by
    apply List.count_pos_iff.1
    rw [count_metTwice, List.count_nil, if_pos ⟨by omega, by omega⟩]
    exact Nat.one_pos
  apply (checkMethods_perm object [] (daoOutline object)).mem_iff.2
  exact List.mem_append_left _ (List.mem_map_of_mem met)

/-- The name of a parameter that a method repeats is found. -/
theorem parameterFinding_mem_check {object : BusinessObject} {method : String × List String}
    {parameter : String} (mem : method ∈ daoOutline object)
    (met : firstRepeated [] method.2 = some parameter) :
    parameterFinding object method.1 parameter ∈ check object := by
  apply (checkMethods_perm object [] (daoOutline object)).mem_iff.2
  apply List.mem_append_right
  refine List.mem_flatMap.2 ⟨method, mem, ?_⟩
  rw [checkParameters, met]
  exact List.mem_singleton_self _

/-! ## Main result -/

/-- For an object whose name is free and whose constraints list declared fields: the interface can be
made exactly if nothing is found; then its methods are those of the outline; otherwise the reason is
among the findings; and the findings are, in some order, one for each name that several methods have
and one for each method that repeats the name of a parameter. -/
theorem access_interface_told_alike {object : BusinessObject}
    (free : checkTypeName object.qualifiedName = .ok ()) (declared : ConstraintsDeclared object) :
    ((∃ spec, daoInterface object = .ok spec) ↔ check object = []) ∧
    (∀ spec, daoInterface object = .ok spec →
      daoOutline object = spec.methods.map (fun method =>
        (method.name, method.parameters.map MethodParameter.name)) ∧
      daoMethodNames object = (daoOutline object).map Prod.fst) ∧
    (∀ fault, daoInterface object = .error fault →
      ∃ finding ∈ check object, finding.message = fault.message) ∧
    ∃ ofParameters,
      (check object).Perm
        ((repeatedNames (daoMethodNames object)).map (methodFinding object) ++ ofParameters) ∧
      List.Forall₂
        (fun method finding => ∃ parameter, 2 ≤ method.2.count parameter ∧
          finding = parameterFinding object method.1 parameter)
        ((daoOutline object).filter fun method => ¬ method.2.Nodup) ofParameters := by
  have unreserved := Blueprint.checkTypeName_eq_ok_iff.1 free
  refine ⟨?_, ?_, ?_, ?_⟩
  · rw [check_eq_nil_iff]
    constructor
    · rintro ⟨spec, made⟩
      exact (Blueprint.daoInterface_eq_ok_iff.1 made).2.1
    · intro apart
      exact Blueprint.exists_daoInterface_eq_ok unreserved declared apart
  · intro spec made
    obtain ⟨-, -, methods, walked, rfl⟩ := Blueprint.daoInterface_eq_ok_iff.1 made
    exact ⟨(Blueprint.outline_of_daoMethods walked).symm, rfl⟩
  · intro fault failed
    rcases Blueprint.repetition_of_daoInterface unreserved declared failed with
      ⟨method, met, rfl⟩ | ⟨method, mem, parameter, met, rfl⟩
    · have twice := (Blueprint.two_le_count_of_firstRepeated met).2
      rw [List.count_nil, Nat.zero_add] at twice
      exact ⟨_, methodFinding_mem_check twice, (message_duplicateDaoMethod _ _).symm⟩
    · exact ⟨_, parameterFinding_mem_check mem met, (message_duplicateParameter _ _ _).symm⟩
  · refine ⟨_, ?_, parameterFindings_exact object (daoOutline object)⟩
    have names := (metTwice_perm_repeatedNames (daoMethodNames object)).map (methodFinding object)
    exact (checkMethods_perm object [] (daoOutline object)).trans (names.append_right _)

/-- Persons are found by name in two ways, of which the second takes two parameters of one name. -/
def person : BusinessObject where
  qualifiedName := "org.acme.Person"
  description := none
  fields := [⟨"name", .string, false, none⟩]
  queries := [⟨"findByName", "SELECT p FROM Person p", "org.acme.Person",
    [⟨"name", "java.lang.String"⟩, ⟨"name", "java.lang.String"⟩]⟩]
  uniqueConstraints := [⟨"named", ["name"]⟩]

theorem access_interface_told_alike_person :
    checkTypeName person.qualifiedName = .ok () ∧ ConstraintsDeclared person ∧
      (check person).Perm [methodFinding person "findByName",
        parameterFinding person "findByName" "name"] := by
  have free : checkTypeName person.qualifiedName = .ok () := by decide
  have declared : ConstraintsDeclared person := by
    unfold ConstraintsDeclared
    decide
  refine ⟨free, declared, ?_⟩
  obtain ⟨-, -, -, ofParameters, findings, each⟩ := access_interface_told_alike free declared
  have names : repeatedNames (daoMethodNames person) = ["findByName"] := by decide +kernel
  have methods : (daoOutline person).filter (fun method => ¬ method.2.Nodup) =
      [("findByName", ["name", "name"])] := by decide +kernel
  rw [methods] at each
  obtain ⟨_, others, ⟨parameter, twice, rfl⟩, last, rfl⟩ := List.forall₂_cons_left_iff.1 each
  obtain rfl := List.forall₂_nil_left_iff.1 last
  have listed : parameter ∈ ["name", "name"] :=
    List.count_pos_iff.1 (Nat.lt_of_lt_of_le Nat.two_pos twice)
  obtain rfl : parameter = "name" := by simpa using listed
  rwa [names] at findings

end EntityGen.Lint.DaoMethod
