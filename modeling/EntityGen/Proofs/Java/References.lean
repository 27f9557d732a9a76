/-
  Proofs/Java/References.lean --- references in programs.

  Source: the specification, section 4.3 (parameter class names are used as given)
  and section 4.2 (reserved simple names).

  What the classes of a program write for the types that they mention. Entities mention
  types of the platform only and are always faithful. An access interface mentions the types
  of query parameters as well, which no check looks at: it is faithful unless one of them is
  captured by a generated type.
-/
import EntityGen.Proofs.Compile.Build
import EntityGen.Proofs.Java.Platform
import EntityGen.Proofs.Java.Scoping

set_option autoImplicit false

namespace EntityGen.Java

open EntityGen.Blueprint (ClassSpec Method Signature TypeRef Variant constraintFinder daoInterface
  daoName entityClass reservedSimpleNames)
open EntityGen.Compile (Clean Context generatedNames listed objectClasses)
open EntityGen.Model (BusinessObject DataModel Query UniqueConstraint)
open EntityGen.Naming (namespaceOf simpleNameOf dotted)
open Resolver (isImportable)

/-! ## Foreign types -/

/-- The types of the query parameters of an object, query by query. -/
def parameterTypes (object : BusinessObject) : List String :=
  object.queries.flatMap fun query => query.parameters.map Model.Parameter.className

/-- The name is neither that of the object nor has it a reserved simple name. -/
def isForeign (object : BusinessObject) (name : String) : Bool :=
  name != object.qualifiedName && !reservedSimpleNames.contains (simpleNameOf name)

theorem isForeign_iff {object : BusinessObject} {name : String} :
    isForeign object name = true ↔
      name ≠ object.qualifiedName ∧ simpleNameOf name ∉ reservedSimpleNames := by
  simp [isForeign]

theorem not_isForeign_of_reserved {object : BusinessObject} {name : String}
    (reserved : simpleNameOf name ∈ reservedSimpleNames) : ¬ isForeign object name = true :=
  fun foreign => (isForeign_iff.1 foreign).2 reserved

theorem not_isForeign_self (object : BusinessObject) :
    ¬ isForeign object object.qualifiedName = true :=
  fun foreign => (isForeign_iff.1 foreign).1 rfl

/-- Whoever claims a simple name that is not reserved after an object does so with and without the
types that are not foreign to the object. -/
theorem owner?_claimants_foreign {object : BusinessObject} {simpleName : String}
    (free : simpleName ∉ reservedSimpleNames) (declared : String) (calls : List String) :
    owner? (claimants declared (object.qualifiedName :: calls)) simpleName =
      owner? (claimants declared (object.qualifiedName :: calls.filter (isForeign object)))
        simpleName := by
  -- Only the object is not foreign and may have this simple name, and it comes first anyway.
  have others : ¬ (isImportable object.qualifiedName = true ∧
      (simpleNameOf object.qualifiedName == simpleName) = true) →
      (calls.filter isImportable).find? (fun name => simpleNameOf name == simpleName) =
        ((calls.filter (isForeign object)).filter isImportable).find?
          fun name => simpleNameOf name == simpleName := by
    intro notObject
    rw [List.filter_filter, List.find?_filter, List.find?_filter]
    congr 1
    funext name
    by_cases hit : isImportable name = true ∧ (simpleNameOf name == simpleName) = true
    · have foreign : isForeign object name = true := by
        refine isForeign_iff.2 ⟨fun same => notObject (same ▸ hit), ?_⟩
        rwa [eq_of_beq hit.2]
      exact decide_eq_decide.2 (iff_of_true hit ⟨Bool.and_eq_true_iff.2 ⟨hit.1, foreign⟩, hit.2⟩)
    · refine decide_eq_decide.2 (iff_of_false hit fun both => hit ?_)
      exact ⟨(Bool.and_eq_true_iff.1 both.1).1, both.2⟩
  unfold owner? claimants
  rw [List.find?_cons, List.find?_cons]
  cases simpleNameOf declared == simpleName with
  | true => rfl
  | false =>
    by_cases importable : isImportable object.qualifiedName = true
    · rw [List.filter_cons_of_pos importable, List.filter_cons_of_pos importable,
        List.find?_cons, List.find?_cons]
      cases hit : simpleNameOf object.qualifiedName == simpleName with
      | true => rfl
      | false => exact others fun both => by simp [hit] at both
    · rw [List.filter_cons_of_neg importable, List.filter_cons_of_neg importable]
      exact others fun both => importable both.1

/-! ## Access interfaces -/

/-- The finder of a constraint mentions its object and reference types of built-in types. -/
theorem filter_isForeign_constraintFinder {object : BusinessObject} {constraint : UniqueConstraint}
    {finder : Method} (made : constraintFinder object constraint = .ok finder) :
    (methodMentions finder).filter (isForeign object) = [] := by
  unfold constraintFinder at made
  obtain ⟨parameters, walked, whole⟩ := bind_eq_ok_iff.1 made
  rw [← pure_eq_ok_iff.1 whole, List.filter_eq_nil_iff]
  intro name mem
  simp only [methodMentions, typeMentions, bodyMentions, List.flatMap_nil, List.nil_append,
    List.append_nil, List.singleton_append, List.mem_cons] at mem
  rcases mem with rfl | parameter
  · exact not_isForeign_self object
  · obtain ⟨one, among, here⟩ := List.mem_flatMap.1 parameter
    obtain ⟨field, -, found⟩ := exists_of_mem_mapM walked among
    obtain ⟨declared, -, rfl⟩ := Blueprint.finderParameter_eq_ok_iff.1 found
    exact not_isForeign_of_reserved (reserved_boxedMentions _ name here)

theorem methodMentions_signature (signature : Signature) :
    methodMentions signature.method = typeMentions signature.result ++
      signature.parameters.flatMap fun parameter => typeMentions parameter.type := by
  simp [methodMentions, Signature.method, bodyMentions]

/-- What is foreign in a query are types of its own parameters. -/
theorem filter_isForeign_query (query : Query) (object : BusinessObject) :
    (methodMentions (Signature.ofQuery query object).method).filter (isForeign object) =
      (query.parameters.map Model.Parameter.className).filter (isForeign object) := by
  have list : ¬ isForeign object "java.util.List" = true :=
    not_isForeign_of_reserved (by decide)
  have declared : (query.parameters.map fun parameter =>
      Blueprint.MethodParameter.mk parameter.name (.named parameter.className)).flatMap
        (fun parameter => typeMentions parameter.type) =
      query.parameters.map Model.Parameter.className := by
    rw [List.flatMap_map, List.map_eq_flatMap]
    rfl
  rw [methodMentions_signature]
  unfold Signature.ofQuery
  split
  · simp only [List.flatMap_append, declared, List.filter_append]
    simp [typeMentions, plainMentions, Blueprint.pageParameters, not_isForeign_self, list]
  · simp only [declared, List.filter_append]
    simp [typeMentions, not_isForeign_self]

/-- What is foreign in an interface are types of query parameters, in their order. -/
theorem filter_isForeign_daoInterface {object : BusinessObject} {spec : ClassSpec}
    (made : daoInterface object = .ok spec) :
    (classMentions spec).filter (isForeign object) =
      (parameterTypes object).filter (isForeign object) := by
  obtain ⟨-, -, methods, built, rfl⟩ := Blueprint.daoInterface_eq_ok_iff.1 made
  obtain ⟨finders, walked, rfl⟩ := Blueprint.daoMethods_eq_ok_iff.1 built
  have standard : ((Blueprint.standardFinders object).flatMap methodMentions).filter
      (isForeign object) = [] := by
    change [object.qualifiedName, "java.lang.Long", object.qualifiedName, "java.util.List"].filter
      (isForeign object) = []
    have long : ¬ isForeign object "java.lang.Long" = true :=
      not_isForeign_of_reserved (by decide)
    have list : ¬ isForeign object "java.util.List" = true :=
      not_isForeign_of_reserved (by decide)
    simp [not_isForeign_self, long, list]
  have constraints : (finders.flatMap methodMentions).filter (isForeign object) = [] := by
    rw [List.filter_flatMap, List.flatMap_eq_nil_iff]
    intro finder mem
    obtain ⟨constraint, -, here⟩ := exists_of_mem_mapM walked mem
    exact filter_isForeign_constraintFinder here
  simp only [classMentions, List.flatMap_nil, List.nil_append, List.flatMap_append,
    List.filter_append, standard, constraints, List.flatMap_map]
  rw [parameterTypes, List.filter_flatMap, List.filter_flatMap]
  simp only [filter_isForeign_query]

/-- An interface mentions its object before any other type. -/
theorem exists_classMentions_cons {object : BusinessObject} {spec : ClassSpec}
    (made : daoInterface object = .ok spec) :
    ∃ more, classMentions spec = object.qualifiedName :: more := by
  obtain ⟨-, -, methods, built, rfl⟩ := Blueprint.daoInterface_eq_ok_iff.1 made
  obtain ⟨finders, -, rfl⟩ := Blueprint.daoMethods_eq_ok_iff.1 built
  simp only [classMentions, List.flatMap_nil, List.nil_append, Blueprint.standardFinders,
    List.cons_append, List.flatMap_cons, methodMentions, typeMentions]
  exact ⟨_, rfl⟩

/-- Simple names that are not reserved belong to the same types as if an interface mentioned its
object and the types of query parameters only. -/
theorem owner?_daoInterface {object : BusinessObject} {spec : ClassSpec}
    (made : daoInterface object = .ok spec) {simpleName : String}
    (free : simpleName ∉ reservedSimpleNames) :
    owner? (claimants (daoName object) (classMentions spec)) simpleName =
      owner? (claimants (daoName object) (object.qualifiedName :: parameterTypes object))
        simpleName := by
  obtain ⟨more, mentions⟩ := exists_classMentions_cons made
  have foreign := filter_isForeign_daoInterface made
  rw [mentions, List.filter_cons_of_neg (not_isForeign_self object)] at foreign
  rw [mentions, owner?_claimants_foreign free, foreign, ← owner?_claimants_foreign free]

/-- What is captured in the interface of an object of a clean model are types of query parameters. -/
theorem isCaptured_daoInterface_iff {model : DataModel} (clean : Clean model)
    {object : BusinessObject} {spec : ClassSpec} (made : daoInterface object = .ok spec)
    {name : String} :
    IsCaptured (generatedNames model) (daoName object) (classMentions spec) name ↔
      IsCaptured (generatedNames model) (daoName object)
        (object.qualifiedName :: parameterTypes object) name := by
  unfold IsCaptured
  refine and_congr_right fun _ => and_congr_left fun hit => ?_
  have free := simpleNameOf_generated_not_mem clean hit
  rw [Naming.simpleNameOf_dotted (Naming.not_mem_simpleNameOf name)] at free
  rw [owner?_daoInterface made free]

/-! ## Programs -/

/-- Entities of a clean model are faithful. -/
theorem faithful_entityClass {variant : Variant} {model : DataModel} (clean : Clean model)
    {object : BusinessObject} (listed : object ∈ model.objects) {spec : ClassSpec}
    (made : entityClass variant object = .ok spec) : Faithful (generatedNames model) spec := by
  have free := clean.typeNames object listed
  have outside : namespaceOf spec.qualifiedName ≠ implicitPackage := by
    rw [Blueprint.qualifiedName_of_entityClass made]
    exact namespaceOf_ne_of_free free (by decide)
  refine (faithful_iff outside).2 fun name captured => ?_
  obtain ⟨implicit, owns, hit⟩ := captured
  have mentioned : name ∈ classMentions spec := by
    rcases List.mem_cons.1 (mem_of_owner? owns) with rfl | claimed
    · exact absurd implicit outside
    · exact (List.mem_filter.1 claimed).1
  have reserved := reserved_of_implicit (classMentions_subset_entityTypes made mentioned) implicit
  refine simpleNameOf_generated_not_mem clean hit ?_
  rwa [Naming.simpleNameOf_dotted (Naming.not_mem_simpleNameOf name)]

/-- An interface of a clean model is faithful unless the type of a query parameter is captured. -/
theorem faithful_daoInterface_iff {model : DataModel} (clean : Clean model)
    {object : BusinessObject} (listed : object ∈ model.objects) {spec : ClassSpec}
    (made : daoInterface object = .ok spec) :
    Faithful (generatedNames model) spec ↔
      ∀ name, ¬ IsCaptured (generatedNames model) (daoName object)
        (object.qualifiedName :: parameterTypes object) name := by
  have free := clean.typeNames object listed
  have named := Blueprint.qualifiedName_of_daoInterface made
  have outside : namespaceOf spec.qualifiedName ≠ implicitPackage := by
    rw [named, namespaceOf_daoName free]
    exact namespaceOf_ne_of_free free (by decide)
  rw [faithful_iff outside, named]
  simp only [isCaptured_daoInterface_iff clean made]

/-- The classes of a clean model are faithful unless the type of a query parameter is captured. -/
theorem faithful_listed_iff {variant : Variant} {model : DataModel} (clean : Clean model)
    {pairs : List (ClassSpec × ClassSpec)}
    (made : model.objects.mapM (objectClasses variant) = .ok pairs) :
    (∀ spec ∈ listed pairs, Faithful (generatedNames model) spec) ↔
      ∀ object ∈ model.objects, ∀ name, ¬ IsCaptured (generatedNames model) (daoName object)
        (object.qualifiedName :: parameterTypes object) name := by
  constructor
  · intro faithful object mem
    obtain ⟨spec, among, dao⟩ := Compile.exists_dao_mem_listed made mem
    exact (faithful_daoInterface_iff clean mem dao).1 (faithful spec among)
  · intro free spec mem
    obtain ⟨object, declared, entity | dao⟩ := Compile.exists_of_mem_listed made mem
    · exact faithful_entityClass clean declared entity
    · exact (faithful_daoInterface_iff clean declared dao).2 (free object declared)

/-- In the program of an accepted model, writing a class is asking for the types that it mentions, and
the entities denote these types by what they write. The whole program does exactly if in no interface
the type of a query parameter is captured: written by its simple name as a type of the implicit
package, where a type of that name is generated in the same package. -/
theorem references_faithful_iff {variant : Variant} {model : DataModel} {context : Context}
    (compiled : Compile.compile variant [] model = .ok context) :
    ∃ program, context.program = some program ∧
      (∀ spec ∈ program.items, Asks (classFragments spec) (classMentions spec)) ∧
      (∀ spec ∈ program.items, spec.isInterface = false → Faithful program.names spec) ∧
      ((∀ spec ∈ program.items, Faithful program.names spec) ↔
        ∀ object ∈ model.objects, ∀ name, ¬ IsCaptured program.names (daoName object)
          (object.qualifiedName :: parameterTypes object) name) := by
  obtain ⟨clean, pairs, program, made, items, rfl⟩ := Compile.compile_eq_ok_iff.1 compiled
  refine ⟨program, rfl, fun spec _ => asks_classFragments spec, ?_, ?_⟩
  · rw [Compile.names_program made items, items]
    intro spec mem concrete
    obtain ⟨object, declared, entity | dao⟩ := Compile.exists_of_mem_listed made mem
    · exact faithful_entityClass clean declared entity
    · obtain ⟨-, -, methods, -, whole⟩ := Blueprint.daoInterface_eq_ok_iff.1 dao
      rw [whole] at concrete
      cases concrete
  · rw [Compile.names_program made items, items]
    exact faithful_listed_iff clean made

/-- A model with two objects in one package. The second is asked for by a type of the implicit package
that has the simple name of the first. -/
def threads : DataModel where
  items := [
    ⟨"org.acme.Thread", none, [], [], []⟩,
    { qualifiedName := "org.acme.Task"
      description := none
      fields := [⟨"due", .date, true, none⟩]
      queries := [⟨"byOwner", "SELECT t FROM Task t", "org.acme.Task",
        [⟨"owner", "java.lang.Thread"⟩, ⟨"since", "java.util.Date"⟩]⟩]
      uniqueConstraints := [] }]
  distinct := by decide

theorem references_faithful_threads :
    ∃ context, Compile.compile .client [] threads = .ok context ∧
      ∃ program, context.program = some program ∧
        (∀ spec ∈ program.items, Asks (classFragments spec) (classMentions spec)) ∧
        (∀ spec ∈ program.items, spec.isInterface = false → Faithful program.names spec) ∧
        ((∀ spec ∈ program.items, Faithful program.names spec) ↔
          ∀ object ∈ threads.objects, ∀ name, ¬ IsCaptured program.names (daoName object)
            (object.qualifiedName :: parameterTypes object) name) := by
  have clean := (Compile.hasErrors_check_eq_false_iff .client).1
    (by decide +kernel : (Compile.check .client threads).hasErrors = false)
  obtain ⟨_, _, _, _, compiled⟩ := clean.exists_compile .client
  exact ⟨_, compiled, references_faithful_iff compiled⟩

/-- The type of a query parameter is captured by the class of another object. -/
theorem thread_captured :
    ∃ context program, Compile.compile .server [] threads = .ok context ∧
      context.program = some program ∧ ¬ ∀ spec ∈ program.items, Faithful program.names spec := by
  have clean := (Compile.hasErrors_check_eq_false_iff .server).1
    (by decide +kernel : (Compile.check .server threads).hasErrors = false)
  obtain ⟨pairs, program, made, items, compiled⟩ := clean.exists_compile .server
  refine ⟨_, program, compiled, rfl, ?_⟩
  rw [Compile.names_program made items, items, faithful_listed_iff clean made]
  intro free
  have captured : ∃ object ∈ threads.objects, IsCaptured (generatedNames threads) (daoName object)
      (object.qualifiedName :: parameterTypes object) "java.lang.Thread" := by
    decide +kernel
  obtain ⟨object, listed, here⟩ := captured
  exact free object listed _ here

end EntityGen.Java
