/-
  Proofs/Java/Resolution.lean --- how types are written.

  Source: the specification, section 4.3: types of other packages are imported.

  What a file writes for the types that it mentions, and what it imports. Different types
  are written differently and one type always alike, and what is imported are the types of
  other packages that are written by simple name.
-/
import EntityGen.Proofs.Java.Owners

set_option autoImplicit false

namespace EntityGen.Java

open EntityGen.Layout (Imports)
open EntityGen.Naming (namespaceOf simpleNameOf)
open Resolver (isImportable)

/-! ## Files -/

/-- Everything that claims a simple name in a file, the declared type first. -/
def claimants (declared : String) (calls : List String) : List String :=
  declared :: calls.filter isImportable

/-- What a file writes for the types that it mentions one after the other. -/
def written (declared : String) (calls : List String) : List String :=
  ((calls.mapM Resolver.resolve).run (Resolver.declaring declared)).1

/-- The state after all mentions. -/
def resolverAfter (declared : String) (calls : List String) : Resolver :=
  ((calls.mapM Resolver.resolve).run (Resolver.declaring declared)).2

/-- The types that a file mentions, each with what is written for it. -/
def transcript (declared : String) (calls : List String) : List (String × String) :=
  calls.zip (written declared calls)

theorem written_eq (declared : String) (calls : List String) :
    written declared calls = calls.map (spelling (claimants declared calls)) := by
  obtain ⟨next, run, -⟩ := (represents_declaring declared).mapM_resolve calls
  rw [written, run, List.nil_append, claimants]

theorem represents_resolverAfter (declared : String) (calls : List String) :
    Represents declared (calls.filter isImportable) (resolverAfter declared calls) := by
  obtain ⟨next, run, known⟩ := (represents_declaring declared).mapM_resolve calls
  rw [resolverAfter, run]
  exact known

theorem transcript_eq (declared : String) (calls : List String) :
    transcript declared calls =
      calls.map fun name => (name, spelling (claimants declared calls) name) := by
  have zipped : (calls.map id).zip (calls.map (spelling (claimants declared calls))) = _ :=
    List.zip_map'
  rw [List.map_id] at zipped
  rw [transcript, written_eq, zipped]
  rfl

theorem mem_transcript {declared : String} {calls : List String} {mention : String × String} :
    mention ∈ transcript declared calls ↔
      mention.1 ∈ calls ∧ mention.2 = spelling (claimants declared calls) mention.1 := by
  rw [transcript_eq, List.mem_map]
  constructor
  · rintro ⟨name, mem, rfl⟩
    exact ⟨mem, rfl⟩
  · rintro ⟨mem, text⟩
    exact ⟨mention.1, mem, by rw [← text]⟩

/-- What has been written stays as it is when more types are mentioned. -/
theorem transcript_take (declared : String) (calls : List String) (count : Nat) :
    transcript declared (calls.take count) = (transcript declared calls).take count := by
  rw [transcript_eq, transcript_eq, ← List.map_take]
  refine List.map_congr_left fun name mem => ?_
  by_cases importable : isImportable name = true
  · have early : name ∈ claimants declared (calls.take count) :=
      List.mem_cons_of_mem _ (List.mem_filter.2 ⟨mem, importable⟩)
    have order : claimants declared calls = claimants declared (calls.take count) ++
        (calls.drop count).filter isImportable := by
      rw [claimants, claimants, List.cons_append, ← List.filter_append, List.take_append_drop]
    rw [order, spelling_append early]
  · rw [spelling_of_not_importable importable, spelling_of_not_importable importable]

/-- Types that cannot be imported leave no trace in the state. -/
theorem resolverAfter_filter (declared : String) (calls : List String) :
    resolverAfter declared (calls.filter isImportable) = resolverAfter declared calls := by
  unfold resolverAfter
  generalize Resolver.declaring declared = resolver
  induction calls generalizing resolver with
  | nil => rfl
  | cons name rest ih =>
    by_cases importable : isImportable name = true
    · rw [List.filter_cons_of_pos importable]
      rw [run_mapM_cons, run_mapM_cons]
      exact ih _
    · have unchanged : (Resolver.resolve name).run resolver = (name, resolver) := by
        change Resolver.resolve name resolver = _
        rw [Resolver.resolve, if_neg importable]
      rw [List.filter_cons_of_neg importable, run_mapM_cons, unchanged]
      exact ih resolver

theorem transcript_filter (declared : String) (calls : List String) :
    transcript declared (calls.filter isImportable) =
      (transcript declared calls).filter fun mention => isImportable mention.1 := by
  have same : claimants declared (calls.filter isImportable) = claimants declared calls := by
    rw [claimants, claimants, List.filter_filter]
    simp only [Bool.and_self]
  rw [transcript_eq, transcript_eq, same, List.filter_map]
  rfl

/-! ## Imports -/

variable {declared : String} {names : List String} {resolver : Resolver}

/-- The dotted name of the parts of an imported type is that type. -/
theorem Represents.dotted_of_mem (known : Represents declared names resolver)
    {pair : String × String} (mem : pair ∈ resolver.imports.pairs) :
    IsImported declared names (pair.1 ++ "." ++ pair.2) ∧
      parts (pair.1 ++ "." ++ pair.2) = pair := by
  obtain ⟨name, imported, rfl⟩ := (known.imported pair).1 mem
  have packaged := packaged_of_importable (known.importable name imported.1)
  have whole : (parts name).1 ++ "." ++ (parts name).2 = name := Naming.dotted_namespaceOf packaged
  rw [whole]
  exact ⟨imported, rfl⟩

/-- A file imports the types that have to be imported. -/
theorem Represents.mem_importedNames (known : Represents declared names resolver) {name : String} :
    name ∈ resolver.importedNames ↔ IsImported declared names name := by
  rw [Resolver.importedNames, Imports.mem_qualified]
  constructor
  · rintro ⟨pair, mem, rfl⟩
    exact (known.dotted_of_mem mem).1
  · intro imported
    have packaged := packaged_of_importable (known.importable name imported.1)
    exact ⟨parts name, (known.imported _).2 ⟨name, imported, rfl⟩,
      Naming.dotted_namespaceOf packaged⟩

/-- Imports are listed in strictly ascending order. -/
theorem Represents.pairwise_importedNames (known : Represents declared names resolver) :
    resolver.importedNames.Pairwise fun a b => a < b := by
  refine Imports.pairwise_lt_qualified (known.once.map_on fun first mem second mem' same => ?_)
  rw [← (known.dotted_of_mem mem).2, same, (known.dotted_of_mem mem').2]

/-- Imported types have simple names of their own. -/
theorem IsImported.eq_of_simpleNameOf {first second : String}
    (one : IsImported declared names first) (other : IsImported declared names second)
    (same : simpleNameOf first = simpleNameOf second) : first = second := by
  have owns := one.2.1
  rw [same] at owns
  exact Option.some.inj (owns.symm.trans other.2.1)

/-- No imported type has the simple name of the declared one. -/
theorem IsImported.simpleNameOf_ne {name : String} (imported : IsImported declared names name) :
    simpleNameOf name ≠ simpleNameOf declared := by
  intro same
  obtain ⟨-, owns, -, foreign⟩ := imported
  have first : owner? (declared :: names) (simpleNameOf name) = some declared := by
    rw [owner?, List.find?_cons_of_pos]
    simp [same]
  rw [Option.some.inj (first.symm.trans owns)] at foreign
  exact foreign rfl

/-- However types are mentioned in a file: two of them are written alike exactly if they are the
same, whatever is mentioned between and later; the imports are strictly ascending and are the types
written by simple name whose package is neither the implicit one nor that of the file; no two of them
share a simple name, and none has that of the declared type. Types that cannot be imported are written
as they are, and all else is as if they had not been mentioned. -/
theorem resolution_faithful (declared : String) (calls : List String) :
    (transcript declared calls).map Prod.fst = calls ∧
    (∀ first ∈ transcript declared calls, ∀ second ∈ transcript declared calls,
      isImportable first.1 = true → isImportable second.1 = true →
        (first.2 = second.2 ↔ first.1 = second.1)) ∧
    (∀ count, transcript declared (calls.take count) = (transcript declared calls).take count) ∧
    (resolverAfter declared calls).importedNames.Pairwise (fun a b => a < b) ∧
    (∀ name, name ∈ (resolverAfter declared calls).importedNames ↔
      isImportable name = true ∧ (name, simpleNameOf name) ∈ transcript declared calls ∧
        namespaceOf name ≠ implicitPackage ∧ namespaceOf name ≠ namespaceOf declared) ∧
    (∀ first ∈ (resolverAfter declared calls).importedNames,
      ∀ second ∈ (resolverAfter declared calls).importedNames,
        simpleNameOf first = simpleNameOf second → first = second) ∧
    (∀ name ∈ (resolverAfter declared calls).importedNames,
      simpleNameOf name ≠ simpleNameOf declared) ∧
    (∀ mention ∈ transcript declared calls,
      isImportable mention.1 = false → mention.2 = mention.1) ∧
    transcript declared (calls.filter isImportable) =
      ((transcript declared calls).filter fun mention => isImportable mention.1) ∧
    resolverAfter declared (calls.filter isImportable) = resolverAfter declared calls := by
  have known := represents_resolverAfter declared calls
  refine ⟨?_, ?_, transcript_take declared calls, known.pairwise_importedNames, ?_, ?_, ?_, ?_,
    transcript_filter declared calls, resolverAfter_filter declared calls⟩
  · rw [transcript_eq, List.map_map]
    exact List.map_id calls
  · intro first one second other firstImportable secondImportable
    rw [(mem_transcript.1 one).2, (mem_transcript.1 other).2]
    exact ⟨spelling_injective firstImportable secondImportable, congrArg _⟩
  · intro name
    rw [known.mem_importedNames, mem_transcript, IsImported, List.mem_filter, spelling]
    constructor
    · rintro ⟨⟨mem, importable⟩, owns, outside⟩
      exact ⟨importable, ⟨mem, (if_pos ⟨importable, owns⟩).symm⟩, outside⟩
    · rintro ⟨importable, ⟨mem, text⟩, outside⟩
      refine ⟨⟨mem, importable⟩, ?_, outside⟩
      by_contra foreign
      rw [if_neg fun written => foreign written.2] at text
      exact Naming.ne_simpleNameOf (packaged_of_importable importable) name text.symm
  · intro first one second other same
    exact (known.mem_importedNames.1 one).eq_of_simpleNameOf (known.mem_importedNames.1 other) same
  · intro name mem
    exact (known.mem_importedNames.1 mem).simpleNameOf_ne
  · intro mention mem plain
    rw [(mem_transcript.1 mem).2, spelling_of_not_importable (by simp [plain])]

end EntityGen.Java
