/-
  Proofs/Compile/Tables.lean --- tables of entities.

  Source: the specification, section 4.2: `table(name=<SIMPLENAME>)`.

  Every entity is mapped to a table named like its object in upper case, without the
  package. The checks compare whole names, so that they keep the entities of one package
  from sharing a table and let entities of different packages share one. The tables are
  distinct exactly if the simple names of the objects are when letter case is not told
  apart.
-/
import EntityGen.Proofs.Compile.Classes
import EntityGen.Proofs.Java.Platform
import EntityGen.Proofs.Text.Upper
import Mathlib.Data.List.Flatten
import Mathlib.Data.Option.Basic

set_option autoImplicit false

namespace EntityGen.Compile

open EntityGen.Blueprint (ClassSpec Tag TagKind Variant entityClass tableTag)
open EntityGen.Model (BusinessObject DataModel)
open EntityGen.Naming (namespaceOf simpleNameOf)
open EntityGen.Text (AllAscii lower upper)

/-! ## Tables -/

/-- The tables that the tags of a class name. -/
def tablesOf (spec : ClassSpec) : List (Option String) :=
  (spec.tags.filter fun tag => tag.kind == .table).map fun tag => tag.text? "name"

theorem text?_tableTag {object : BusinessObject} {table : Tag}
    (made : tableTag object = .ok table) :
    table.text? "name" = some (upper object.simpleName) := by
  have name : table.get? "name" = some (.text (upper object.simpleName)) := by
    rcases Blueprint.tableTag_eq_ok_iff.1 made with ⟨-, rfl⟩ | ⟨-, constraints, -, rfl⟩
    · rfl
    · rfl
  rw [Tag.text?, name]

/-- An entity for servers has one table, which is named like the entity without its package. -/
theorem tablesOf_entityClass {object : BusinessObject} {spec : ClassSpec}
    (made : entityClass .server object = .ok spec) :
    tablesOf spec = [some (upper spec.simpleName)] := by
  obtain ⟨stored, built, rfl⟩ := Blueprint.entityClass_eq_ok_iff.1 made
  obtain ⟨-, table, tagged, rfl⟩ := Blueprint.serverEntity_eq_ok_iff.1 built
  have queries : (Blueprint.queryTags object).filter (fun tag => tag.kind == .table) = [] := by
    unfold Blueprint.queryTags
    split <;> rfl
  have entity : (((Tag.ofKind .entity).set "name" (.text object.simpleName)).kind ==
      TagKind.table) = false := rfl
  have own : (table.kind == TagKind.table) = true := by
    rw [Blueprint.kind_tableTag tagged]
    rfl
  have tables : ([(Tag.ofKind .entity).set "name" (.text object.simpleName), table] ++
      Blueprint.queryTags object).filter (fun tag => tag.kind == .table) = [table] := by
    simp only [List.filter_append, queries, List.append_nil, List.filter_cons, entity, own,
      Bool.false_eq_true, if_false, if_true, List.filter_nil]
  rw [tablesOf, tables, List.map_singleton, text?_tableTag tagged]
  rfl

/-! ## Names of objects -/

/-- The objects of a clean model have names that differ by more than letter case. -/
theorem Clean.lower_qualifiedNames_nodup {model : DataModel} (clean : Clean model) :
    ((model.objects.map BusinessObject.qualifiedName).map lower).Nodup := by
  have among : (model.objects.map BusinessObject.qualifiedName).Sublist (generatedNames model) := by
    rw [List.map_eq_flatMap, generatedNames]
    exact List.Sublist.flatMap_right _ fun object _ => List.sublist_append_left [_] [_]
  exact clean.lower_generatedNames_nodup.sublist (among.map lower)

/-- Names of one package that differ by more than letter case do so in their last part. -/
theorem upper_simpleNameOf_ne {name other : String}
    (packaged : (namespaceOf name).isEmpty = false) (plain : AllAscii name)
    (packaged' : (namespaceOf other).isEmpty = false) (plain' : AllAscii other)
    (apart : lower name ≠ lower other)
    (together : lower (namespaceOf name) = lower (namespaceOf other)) :
    upper (simpleNameOf name) ≠ upper (simpleNameOf other) := by
  obtain ⟨package, simple⟩ := Naming.allAscii_parts packaged plain
  obtain ⟨package', simple'⟩ := Naming.allAscii_parts packaged' plain'
  intro shared
  have same : lower (simpleNameOf name) = lower (simpleNameOf other) :=
    (Text.upper_eq_upper_iff simple simple').1 shared
  refine apart ?_
  calc lower name = lower (Naming.dotted (namespaceOf name) (simpleNameOf name)) := by
        rw [Naming.dotted_namespaceOf packaged]
    _ = Naming.dotted (lower (namespaceOf name)) (lower (simpleNameOf name)) :=
        Naming.lower_dotted package simple
    _ = Naming.dotted (lower (namespaceOf other)) (lower (simpleNameOf other)) := by
        rw [together, same]
    _ = lower (Naming.dotted (namespaceOf other) (simpleNameOf other)) :=
        (Naming.lower_dotted package' simple').symm
    _ = lower other := by rw [Naming.dotted_namespaceOf packaged']

/-! ## Main result -/

/-- In the program of a model without errors every entity has one table, which is named like its
object in upper case and without the package. The tables are pairwise distinct exactly if these names
are, and entities whose packages are one but for letter case never share a table as long as their
names are made of ASCII characters. -/
theorem tables_apart_iff {model : DataModel} (noErrors : (check .server model).hasErrors = false) :
    ∃ context program, compile .server [] model = .ok context ∧ context.program = some program ∧
      List.Forall₂ (fun object spec => entityClass .server object = .ok spec ∧
        tablesOf spec = [some (upper object.simpleName)]) model.objects (entitiesOf program) ∧
      (((entitiesOf program).flatMap tablesOf).Nodup ↔
        (model.objects.map fun object => upper object.simpleName).Nodup) ∧
      (entitiesOf program).Pairwise fun spec other =>
        AllAscii spec.qualifiedName → AllAscii other.qualifiedName →
          lower spec.packageName = lower other.packageName → tablesOf spec ≠ tablesOf other := by
  obtain ⟨clean, context, program, compiled, built, entities, -⟩ := exists_program noErrors
  have walked := mapM_eq_ok_iff_forall₂.2 entities
  have names : (entitiesOf program).map ClassSpec.qualifiedName =
      model.objects.map BusinessObject.qualifiedName :=
    map_eq_map_of_mapM walked fun _ _ made => Blueprint.qualifiedName_of_entityClass made
  have tables : ∀ spec ∈ entitiesOf program,
      tablesOf spec = [some (upper spec.simpleName)] := by
    intro spec mem
    obtain ⟨object, -, made⟩ := exists_of_mem_mapM walked mem
    exact tablesOf_entityClass made
  have packaged : ∀ spec ∈ entitiesOf program,
      (namespaceOf spec.qualifiedName).isEmpty = false := by
    intro spec mem
    obtain ⟨object, listed, made⟩ := exists_of_mem_mapM walked mem
    rw [Blueprint.qualifiedName_of_entityClass made]
    exact Java.packaged_of_free (clean.typeNames object listed)
  refine ⟨context, program, compiled, built, ?_, ?_, ?_⟩
  · refine forall₂_of_mem entities fun object _ spec made => ⟨made, ?_⟩
    rw [tablesOf_entityClass made, ClassSpec.simpleName, Blueprint.qualifiedName_of_entityClass made]
    rfl
  · have simple : (entitiesOf program).flatMap tablesOf =
        (model.objects.map fun object => upper object.simpleName).map some := by
      rw [List.flatMap_congr tables, ← List.map_eq_flatMap, List.map_map]
      refine map_eq_map_of_mapM walked fun object spec made => ?_
      rw [ClassSpec.simpleName, Blueprint.qualifiedName_of_entityClass made]
      rfl
    rw [simple]
    exact List.nodup_map_iff (Option.some_injective String)
  · have apart := clean.lower_qualifiedNames_nodup
    rw [← names, List.map_map] at apart
    refine (List.pairwise_map.1 apart).imp_of_mem ?_
    intro spec other mem mem' unlike plain plain' together shared
    rw [tables spec mem, tables other mem', List.cons.injEq, Option.some_inj] at shared
    exact upper_simpleNameOf_ne (packaged spec mem) plain (packaged other mem') plain' unlike
      together shared.1

/-- Two objects of one package and one of another, the names of two being alike. -/
def shelved : DataModel where
  items := [⟨"org.acme.sales.Invoice", none, [], [], []⟩,
    ⟨"org.acme.sales.InvoiceLine", none, [], [], []⟩,
    ⟨"org.acme.supply.invoice", none, [], [], []⟩]
  distinct := by decide

theorem tables_apart_shelved :
    (check .server shelved).hasErrors = false ∧
      ∃ context program, compile .server [] shelved = .ok context ∧
        context.program = some program ∧
        List.Forall₂ (fun object spec => entityClass .server object = .ok spec ∧
          tablesOf spec = [some (upper object.simpleName)])
          shelved.objects (entitiesOf program) ∧
        (((entitiesOf program).flatMap tablesOf).Nodup ↔
          (shelved.objects.map fun object => upper object.simpleName).Nodup) ∧
        (entitiesOf program).Pairwise fun spec other =>
          AllAscii spec.qualifiedName → AllAscii other.qualifiedName →
            lower spec.packageName = lower other.packageName → tablesOf spec ≠ tablesOf other := by
  have noErrors : (check .server shelved).hasErrors = false := by decide +kernel
  exact ⟨noErrors, tables_apart_iff noErrors⟩

/-- Two objects of one simple name. -/
def traded : DataModel where
  items := [⟨"org.acme.sales.Invoice", none, [], [], []⟩,
    ⟨"org.acme.supply.Invoice", none, [], [], []⟩]
  distinct := by decide

/-- The checks let the entities of two packages have one table. -/
theorem table_shared :
    (check .server traded).hasErrors = false ∧
      ∃ context program, compile .server [] traded = .ok context ∧ context.program = some program ∧
        (entitiesOf program).flatMap tablesOf = [some "INVOICE", some "INVOICE"] := by
  have noErrors : (check .server traded).hasErrors = false := by decide +kernel
  obtain ⟨-, context, program, compiled, built, entities, -⟩ := exists_program noErrors
  refine ⟨noErrors, context, program, compiled, built, ?_⟩
  obtain ⟨sales, others, made, rest, items⟩ := List.forall₂_cons_left_iff.1 entities
  obtain ⟨supply, none, made', last, rfl⟩ := List.forall₂_cons_left_iff.1 rest
  rw [items, List.forall₂_nil_left_iff.1 last, List.flatMap_cons, List.flatMap_cons,
    tablesOf_entityClass made, tablesOf_entityClass made', ClassSpec.simpleName,
    ClassSpec.simpleName, Blueprint.qualifiedName_of_entityClass made,
    Blueprint.qualifiedName_of_entityClass made']
  decide

end EntityGen.Compile
