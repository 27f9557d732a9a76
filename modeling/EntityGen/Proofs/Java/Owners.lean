/-
  Proofs/Java/Owners.lean --- owners of simple names.

  Source: `Java/Resolver.lean`, and the rule of Java that a file may import a simple name
  once.

  What is written for a type depends on the order of all types of its simple name alone: the
  simple name belongs to the first of them, beginning with the declared type. The state that
  is carried from one mention to the next represents the types met so far, whichever they
  are.
-/
import EntityGen.Java.Resolver
import EntityGen.Proofs.Layout.Imports
import EntityGen.Proofs.Naming

set_option autoImplicit false

namespace EntityGen.Java

open EntityGen.Layout (Imports)
open EntityGen.Naming (namespaceOf simpleNameOf)
open Resolver (isImportable)

/-! ## Owners of simple names -/

/-- The type that a simple name belongs to: the first that has it. -/
def owner? (claimants : List String) (simpleName : String) : Option String :=
  claimants.find? fun name => simpleNameOf name == simpleName

/-- What is written for a type, given all types that claim simple names in their order. -/
def spelling (claimants : List String) (name : String) : String :=
  if isImportable name ∧ owner? claimants (simpleNameOf name) = some name then simpleNameOf name
  else name

theorem mem_of_owner? {claimants : List String} {simpleName name : String}
    (owner : owner? claimants simpleName = some name) : name ∈ claimants :=
  List.mem_of_find?_eq_some owner

/-- The simple name of a claimant has an owner. -/
theorem exists_owner?_of_mem {claimants : List String} {name : String} (mem : name ∈ claimants) :
    ∃ owner, owner? claimants (simpleNameOf name) = some owner := by
  refine Option.isSome_iff_exists.1 (List.find?_isSome.2 ⟨name, mem, ?_⟩)
  simp

/-- Later claimants do not change the owner of a simple name that has one. -/
theorem owner?_append_of_some {claimants : List String} {simpleName owner : String}
    (taken : owner? claimants simpleName = some owner) (more : List String) :
    owner? (claimants ++ more) simpleName = some owner := by
  rw [owner?, List.find?_append, ← owner?, taken, Option.some_or]

/-- One more claimant owns its simple name if nobody did. -/
theorem owner?_append_singleton (claimants : List String) (name simpleName : String) :
    owner? (claimants ++ [name]) simpleName =
      (owner? claimants simpleName).or (if simpleNameOf name = simpleName then some name else none)
        := by
  rw [owner?, List.find?_append, ← owner?, List.find?_singleton]
  by_cases same : simpleNameOf name = simpleName
  · simp [same]
  · simp [same]

/-- A claimant whose simple name is taken changes nothing. -/
theorem owner?_append_of_taken {claimants : List String} {name owner : String}
    (taken : owner? claimants (simpleNameOf name) = some owner) (simpleName : String) :
    owner? (claimants ++ [name]) simpleName = owner? claimants simpleName := by
  rw [owner?_append_singleton]
  by_cases same : simpleNameOf name = simpleName
  · rw [← same, taken, Option.some_or]
  · rw [if_neg same, Option.or_none]

/-- A claimant whose simple name is free owns it from then on. -/
theorem owner?_append_of_free {claimants : List String} {name : String}
    (free : owner? claimants (simpleNameOf name) = none) (simpleName : String) :
    owner? (claimants ++ [name]) simpleName =
      if simpleNameOf name = simpleName then some name else owner? claimants simpleName := by
  rw [owner?_append_singleton]
  split
  · rename_i same
    rw [← same, free, Option.none_or]
  · rw [Option.or_none]

/-- What is written for a type does not depend on later claimants. -/
theorem spelling_append {claimants : List String} {name : String} (mem : name ∈ claimants)
    (more : List String) : spelling (claimants ++ more) name = spelling claimants name := by
  obtain ⟨owner, taken⟩ := exists_owner?_of_mem mem
  rw [spelling, spelling, taken, owner?_append_of_some taken more]

theorem spelling_of_not_importable {name : String} (plain : ¬ isImportable name = true)
    (claimants : List String) : spelling claimants name = name := by
  rw [spelling, if_neg fun written => plain written.1]

/-- A type that can be imported has a package. -/
theorem packaged_of_importable {name : String} (importable : isImportable name = true) :
    (namespaceOf name).isEmpty = false := by
  unfold isImportable at importable
  simpa using (Bool.and_eq_true_iff.1 importable).1

/-- Different types that can be imported are written differently. -/
theorem spelling_injective {claimants : List String} {first second : String}
    (firstImportable : isImportable first = true) (secondImportable : isImportable second = true)
    (same : spelling claimants first = spelling claimants second) : first = second := by
  have firstPackaged := packaged_of_importable firstImportable
  have secondPackaged := packaged_of_importable secondImportable
  unfold spelling at same
  split at same
  · rename_i firstOwns
    split at same
    · rename_i secondOwns
      rw [same] at firstOwns
      exact Option.some.inj (firstOwns.2.symm.trans secondOwns.2)
    · exact absurd same.symm (Naming.ne_simpleNameOf secondPackaged first)
  · split at same
    · exact absurd same (Naming.ne_simpleNameOf firstPackaged second)
    · exact same

/-! ## States -/

/-- A type of a list is imported: it owns its simple name, and its package is neither that of the file
nor the implicit one. -/
def IsImported (declared : String) (names : List String) (name : String) : Prop :=
  name ∈ names ∧ owner? (declared :: names) (simpleNameOf name) = some name ∧
    namespaceOf name ≠ implicitPackage ∧ namespaceOf name ≠ namespaceOf declared

/-- The package and the simple name of a type. -/
def parts (name : String) : String × String :=
  (namespaceOf name, simpleNameOf name)

/-- A state is that of a file that declares a type and has met others, in this order. -/
structure Represents (declared : String) (names : List String) (resolver : Resolver) : Prop where
  /-- All types met can be imported. -/
  importable : ∀ name ∈ names, isImportable name = true
  /-- The package is that of the declared type. -/
  packageName : resolver.packageName = namespaceOf declared
  /-- Every simple name stands for its owner. -/
  claimed : ∀ simpleName, resolver.claimed.lookup simpleName = owner? (declared :: names) simpleName
  /-- Nothing is imported twice. -/
  once : resolver.imports.pairs.Nodup
  /-- Types are imported that have to be. -/
  imported : ∀ pair, pair ∈ resolver.imports.pairs ↔
    ∃ name, IsImported declared names name ∧ parts name = pair

/-- At first nothing but the declared type is known. -/
theorem represents_declaring (declared : String) :
    Represents declared [] (Resolver.declaring declared) where
  importable := fun name mem => absurd mem List.not_mem_nil
  packageName := rfl
  claimed := by
    intro simpleName
    by_cases same : simpleNameOf declared = simpleName
    · simp [Resolver.declaring, owner?, same]
    · simp [Resolver.declaring, owner?, same, beq_false_of_ne (Ne.symm same)]
  once := List.nodup_nil
  imported := by
    intro pair
    simp [Resolver.declaring, IsImported]

variable {declared : String} {names : List String} {resolver : Resolver}

theorem Represents.importable_append (known : Represents declared names resolver) {name : String}
    (importable : isImportable name = true) :
    ∀ other ∈ names ++ [name], isImportable other = true := by
  intro other mem
  rcases List.mem_append.1 mem with old | new
  · exact known.importable other old
  · exact List.mem_singleton.1 new ▸ importable

/-- A type whose simple name is taken leaves the state as it is. -/
theorem Represents.met {name owner : String} (known : Represents declared names resolver)
    (importable : isImportable name = true)
    (taken : owner? (declared :: names) (simpleNameOf name) = some owner) :
    Represents declared (names ++ [name]) resolver where
  importable := known.importable_append importable
  packageName := known.packageName
  claimed := by
    intro simpleName
    rw [known.claimed, ← List.cons_append, owner?_append_of_taken taken]
  once := known.once
  imported := by
    intro pair
    have same : ∀ other, IsImported declared (names ++ [name]) other ↔
        IsImported declared names other := by
      intro other
      unfold IsImported
      rw [← List.cons_append, owner?_append_of_taken taken]
      constructor
      · rintro ⟨-, owns, notImplicit, foreign⟩
        refine ⟨?_, owns, notImplicit, foreign⟩
        rcases List.mem_cons.1 (mem_of_owner? owns) with rfl | old
        · exact absurd rfl foreign
        · exact old
      · rintro ⟨old, rest⟩
        exact ⟨List.mem_append_left _ old, rest⟩
    rw [known.imported pair]
    simp only [same]

/-- Types of a package need an import unless the package is that of the file or the implicit one. -/
theorem Represents.needsImport_iff (known : Represents declared names resolver)
    {packageName : String} :
    resolver.needsImport packageName = true ↔
      packageName ≠ implicitPackage ∧ packageName ≠ namespaceOf declared := by
  simp [Resolver.needsImport, known.packageName]

/-- A type that claims its simple name is imported from then on if it has to be. -/
theorem Represents.isImported_append (known : Represents declared names resolver) {name : String}
    (free : owner? (declared :: names) (simpleNameOf name) = none) {other : String} :
    IsImported declared (names ++ [name]) other ↔
      IsImported declared names other ∨
        other = name ∧ resolver.needsImport (namespaceOf name) = true := by
  unfold IsImported
  rw [← List.cons_append, owner?_append_of_free free, known.needsImport_iff]
  constructor
  · rintro ⟨mem, owns, outside⟩
    -- The new type owns its simple name; for any other nothing has changed.
    split at owns
    · cases owns
      exact Or.inr ⟨rfl, outside⟩
    · rename_i different
      rcases List.mem_append.1 mem with old | new
      · exact Or.inl ⟨old, owns, outside⟩
      · exact absurd (congrArg simpleNameOf (List.mem_singleton.1 new)).symm different
  · rintro (⟨old, owns, outside⟩ | ⟨rfl, outside⟩)
    · refine ⟨List.mem_append_left _ old, ?_, outside⟩
      rw [if_neg, owns]
      intro same
      rw [← same, free] at owns
      cases owns
    · exact ⟨List.mem_append_right _ (List.mem_singleton.2 rfl), if_pos rfl, outside⟩

/-- A type whose simple name is free has not been imported. -/
theorem Represents.parts_not_mem (known : Represents declared names resolver) {name : String}
    (free : owner? (declared :: names) (simpleNameOf name) = none) :
    parts name ∉ resolver.imports.pairs := by
  intro mem
  obtain ⟨other, ⟨-, owns, -⟩, same⟩ := (known.imported _).1 mem
  rw [(Prod.mk.inj same).2, free] at owns
  cases owns

/-- A claim imports a type if its package is foreign. -/
theorem mem_pairs_claim {name : String} (fresh : parts name ∉ resolver.imports.pairs)
    {pair : String × String} :
    pair ∈ (resolver.claim name).imports.pairs ↔
      pair ∈ resolver.imports.pairs ∨
        parts name = pair ∧ resolver.needsImport (namespaceOf name) = true := by
  unfold Resolver.claim
  simp only
  split
  · rename_i needed
    rw [(Imports.perm_pairs_add fresh).mem_iff, List.mem_cons, or_comm, needed]
    simp [parts, eq_comm]
  · rename_i unneeded
    simp [unneeded]

theorem nodup_pairs_claim {name : String} (fresh : parts name ∉ resolver.imports.pairs)
    (once : resolver.imports.pairs.Nodup) : (resolver.claim name).imports.pairs.Nodup := by
  unfold Resolver.claim
  simp only
  split
  · exact (Imports.perm_pairs_add fresh).nodup_iff.2 (List.nodup_cons.2 ⟨fresh, once⟩)
  · exact once

/-- A type whose simple name is free claims it. -/
theorem Represents.claim {name : String} (known : Represents declared names resolver)
    (importable : isImportable name = true)
    (free : owner? (declared :: names) (simpleNameOf name) = none) :
    Represents declared (names ++ [name]) (resolver.claim name) where
  importable := known.importable_append importable
  packageName := known.packageName
  claimed := by
    intro simpleName
    rw [← List.cons_append, owner?_append_of_free free, Resolver.claim, List.lookup_cons,
      known.claimed]
    by_cases same : simpleNameOf name = simpleName
    · simp [same]
    · simp [same, beq_false_of_ne (Ne.symm same)]
  once := nodup_pairs_claim (known.parts_not_mem free) known.once
  imported := by
    intro pair
    rw [mem_pairs_claim (known.parts_not_mem free), known.imported]
    simp only [known.isImported_append free, or_and_right, exists_or, and_assoc, exists_eq_left]
    rw [and_comm (a := parts name = pair)]

/-! ## Mentions one after the other -/

/-- A mention writes the type as its claimants have it and leads to a state that knows it. -/
theorem Represents.resolve (known : Represents declared names resolver) (name : String) :
    ∃ next, (Resolver.resolve name).run resolver =
        (spelling (declared :: (names ++ [name].filter isImportable)) name, next) ∧
      Represents declared (names ++ [name].filter isImportable) next := by
  by_cases importable : isImportable name = true
  · rw [List.filter_cons_of_pos importable, List.filter_nil]
    change ∃ next, Resolver.resolve name resolver = _ ∧ _
    rw [Resolver.resolve, if_pos importable, spelling]
    simp only [known.claimed, importable, true_and]
    cases search : owner? (declared :: names) (simpleNameOf name) with
    | some owner =>
      refine ⟨resolver, ?_, known.met importable search⟩
      rw [← List.cons_append, owner?_append_of_some search]
      simp only [Option.some.injEq]
    | none =>
      refine ⟨resolver.claim name, ?_, known.claim importable search⟩
      rw [← List.cons_append, owner?_append_of_free search, if_pos rfl, if_pos rfl]
  · refine ⟨resolver, ?_, ?_⟩
    · rw [spelling_of_not_importable importable]
      change Resolver.resolve name resolver = _
      rw [Resolver.resolve, if_neg importable]
    · rw [List.filter_cons_of_neg importable, List.filter_nil, List.append_nil]
      exact known

theorem run_bind {α β : Type} (action : StateM Resolver α) (next : α → StateM Resolver β)
    (resolver : Resolver) :
    (action >>= next).run resolver = (next (action.run resolver).1).run (action.run resolver).2 :=
  rfl

theorem run_mapM_cons (name : String) (rest : List String) (resolver : Resolver) :
    ((name :: rest).mapM Resolver.resolve).run resolver =
      (((Resolver.resolve name).run resolver).1 ::
        ((rest.mapM Resolver.resolve).run ((Resolver.resolve name).run resolver).2).1,
       ((rest.mapM Resolver.resolve).run ((Resolver.resolve name).run resolver).2).2) := by
  rw [List.mapM_cons]
  rfl

theorem run_mapM_append (names more : List String) (resolver : Resolver) :
    ((names ++ more).mapM Resolver.resolve).run resolver =
      (((names.mapM Resolver.resolve).run resolver).1 ++
        ((more.mapM Resolver.resolve).run ((names.mapM Resolver.resolve).run resolver).2).1,
       ((more.mapM Resolver.resolve).run ((names.mapM Resolver.resolve).run resolver).2).2) := by
  rw [List.mapM_append]
  rfl

/-- What several mentions write, and the state after them. -/
theorem Represents.mapM_resolve (known : Represents declared names resolver) (calls : List String) :
    ∃ next, (calls.mapM Resolver.resolve).run resolver =
        (calls.map (spelling (declared :: (names ++ calls.filter isImportable))), next) ∧
      Represents declared (names ++ calls.filter isImportable) next := by
  induction calls generalizing names resolver with
  | nil => exact ⟨resolver, rfl, by simpa using known⟩
  | cons name rest ih =>
    obtain ⟨middle, first, met⟩ := known.resolve name
    obtain ⟨next, others, all⟩ := ih met
    have order : names ++ (name :: rest).filter isImportable =
        names ++ [name].filter isImportable ++ rest.filter isImportable := by
      rw [List.append_assoc, ← List.filter_append, List.singleton_append]
    -- The first type was written before the others had claimed anything.
    have early : spelling (declared :: (names ++ [name].filter isImportable)) name =
        spelling (declared :: (names ++ (name :: rest).filter isImportable)) name := by
      by_cases importable : isImportable name = true
      · have mem : name ∈ declared :: (names ++ [name].filter isImportable) := by
          simp [importable]
        rw [order]
        exact (spelling_append mem _).symm
      · rw [spelling_of_not_importable importable, spelling_of_not_importable importable]
    refine ⟨next, ?_, order ▸ all⟩
    rw [run_mapM_cons, first, others, List.map_cons, ← early, order]

end EntityGen.Java
