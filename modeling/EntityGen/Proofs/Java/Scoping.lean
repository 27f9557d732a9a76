/-
  Proofs/Java/Scoping.lean --- what written names denote.

  Source: the scoping rules of Java for simple type names: single-type imports shadow the
  package, and the package shadows the implicit one.

  A dotted name denotes itself, and a simple name the declared type, an import, a type of
  the same package, or a type of the implicit package, whichever of them there is first. A
  file is faithful if everything it writes denotes the type that it stands for. Types of the
  implicit package are written by simple name and not imported; they are all that can be
  captured by a generated type.
-/
import EntityGen.Proofs.Java.Mentions

set_option autoImplicit false

namespace EntityGen.Java

open EntityGen.Blueprint (ClassSpec)
open EntityGen.Naming (namespaceOf simpleNameOf dotted)
open Resolver (isImportable)

/-! ## Scoping -/

/-- What a text denotes in a file, given the types that the program generates, the type that the file
declares and its imports. The package of the file holds the generated types, and the type that the
text stands for if it lies there. -/
def denoted (generated : List String) (declared : String) (imports : List String)
    (asked text : String) : String :=
  if '.' ∈ text.toList then text
  else if simpleNameOf declared = text then declared
  else
    match imports.find? fun name => simpleNameOf name == text with
    | some imported => imported
    | none =>
      if dotted (namespaceOf declared) text ∈ generated ∨
          namespaceOf asked = namespaceOf declared then
        dotted (namespaceOf declared) text
      else dotted implicitPackage text

/-- Whatever a class writes for the types that it mentions denotes them. -/
def Faithful (generated : List String) (spec : ClassSpec) : Prop :=
  ∀ mention ∈ transcript spec.qualifiedName (classMentions spec), isImportable mention.1 = true →
    denoted generated spec.qualifiedName (classUnit spec).imports mention.1 mention.2 = mention.1

/-- A type of the implicit package owns its simple name in a file, and a type of that name is
generated in the package of the file. -/
def IsCaptured (generated : List String) (declared : String) (calls : List String) (name : String) :
    Prop :=
  namespaceOf name = implicitPackage ∧
    owner? (claimants declared calls) (simpleNameOf name) = some name ∧
    dotted (namespaceOf declared) (simpleNameOf name) ∈ generated

instance (generated : List String) (declared : String) (calls : List String) (name : String) :
    Decidable (IsCaptured generated declared calls name) :=
  inferInstanceAs (Decidable (_ ∧ _ ∧ _))

/-! ## Capture -/

variable {generated : List String} {declared name : String} {names : List String}
  {resolver : Resolver}

/-- Dotted names denote themselves. -/
theorem denoted_of_dotted {imports : List String} {text : String} (packaged : '.' ∈ text.toList) :
    denoted generated declared imports name text = text :=
  if_pos packaged

theorem mem_dot_of_importable (importable : isImportable name = true) : '.' ∈ name.toList := by
  rw [← Naming.dotted_namespaceOf (packaged_of_importable importable), Naming.toList_dotted]
  exact List.mem_append_right _ List.mem_cons_self

/-- The simple name of an imported type denotes that type. -/
theorem Represents.denoted_of_imported (known : Represents declared names resolver)
    (imported : IsImported declared names name) :
    denoted generated declared resolver.importedNames name (simpleNameOf name) = name := by
  have found : resolver.importedNames.find? (fun other => simpleNameOf other == simpleNameOf name) =
      some name := by
    cases search : resolver.importedNames.find? fun other => simpleNameOf other == simpleNameOf name with
    | none =>
      have missing := List.find?_eq_none.1 search name (known.mem_importedNames.2 imported)
      simp at missing
    | some other =>
      have listed := known.mem_importedNames.1 (List.mem_of_find?_eq_some search)
      have same : simpleNameOf other = simpleNameOf name := by simpa using List.find?_some search
      rw [listed.eq_of_simpleNameOf imported same]
  rw [denoted, if_neg (Naming.not_mem_simpleNameOf name), if_neg (Ne.symm imported.simpleNameOf_ne),
    found]

/-- The simple name of a type that owns it without being imported or declared denotes a type of the
package of the file or of the implicit one. -/
theorem Represents.denoted_of_not_imported (known : Represents declared names resolver)
    (owns : owner? (declared :: names) (simpleNameOf name) = some name)
    (notImported : ¬ IsImported declared names name)
    (notDeclared : simpleNameOf declared ≠ simpleNameOf name) :
    denoted generated declared resolver.importedNames name (simpleNameOf name) =
      if dotted (namespaceOf declared) (simpleNameOf name) ∈ generated ∨
          namespaceOf name = namespaceOf declared then
        dotted (namespaceOf declared) (simpleNameOf name)
      else dotted implicitPackage (simpleNameOf name) := by
  have missing : resolver.importedNames.find? (fun other => simpleNameOf other == simpleNameOf name) =
      none := by
    refine List.find?_eq_none.2 fun other listed same => notImported ?_
    have imported := known.mem_importedNames.1 listed
    have first := imported.2.1
    rw [eq_of_beq same, owns] at first
    rwa [Option.some.inj first]
  rw [denoted, if_neg (Naming.not_mem_simpleNameOf name), if_neg notDeclared, missing]

/-- A type that is neither imported nor declared but owns its simple name lies in the implicit package
or in that of the file. -/
theorem namespaceOf_of_not_imported (owns : owner? (declared :: names) (simpleNameOf name) = some name)
    (notImported : ¬ IsImported declared names name)
    (notDeclared : simpleNameOf declared ≠ simpleNameOf name) :
    namespaceOf name = implicitPackage ∨ namespaceOf name = namespaceOf declared := by
  have mem : name ∈ names := by
    rcases List.mem_cons.1 (mem_of_owner? owns) with rfl | later
    · exact absurd rfl notDeclared
    · exact later
  by_contra outside
  rw [not_or] at outside
  exact notImported ⟨mem, owns, outside.1, outside.2⟩

/-- Outside the implicit package a type is denoted by what is written for it unless it is captured. -/
theorem denoted_spelling_iff (calls : List String)
    (outside : namespaceOf declared ≠ implicitPackage) (importable : isImportable name = true) :
    denoted generated declared (resolverAfter declared calls).importedNames name
        (spelling (claimants declared calls) name) = name ↔
      ¬ IsCaptured generated declared calls name := by
  have known := represents_resolverAfter declared calls
  have whole := Naming.dotted_namespaceOf (packaged_of_importable importable)
  unfold spelling IsCaptured claimants
  generalize calls.filter isImportable = names at known ⊢
  by_cases owns : owner? (declared :: names) (simpleNameOf name) = some name
  · rw [if_pos ⟨importable, owns⟩]
    by_cases own : simpleNameOf declared = simpleNameOf name
    · -- The simple name of the declared type belongs to it.
      have first : owner? (declared :: names) (simpleNameOf name) = some declared := by
        rw [owner?, List.find?_cons_of_pos]
        simp [own]
      rw [← Option.some.inj (first.symm.trans owns)]
      rw [denoted, if_neg (Naming.not_mem_simpleNameOf _), if_pos rfl]
      exact iff_of_true rfl fun captured => outside captured.1
    · by_cases imported : IsImported declared names name
      · rw [known.denoted_of_imported imported]
        exact iff_of_true rfl fun captured => imported.2.2.1 captured.1
      · rw [known.denoted_of_not_imported owns imported own]
        rcases namespaceOf_of_not_imported owns imported own with implicit | near
        · have far : namespaceOf name ≠ namespaceOf declared := implicit ▸ Ne.symm outside
          by_cases hit : dotted (namespaceOf declared) (simpleNameOf name) ∈ generated
          · rw [if_pos (Or.inl hit)]
            refine iff_of_false (fun same => far ?_) fun free => free ⟨implicit, owns, hit⟩
            rw [← same, Naming.namespaceOf_dotted (Naming.not_mem_simpleNameOf name)]
          · rw [if_neg (not_or.2 ⟨hit, far⟩), ← implicit, whole]
            exact iff_of_true rfl fun captured => hit captured.2.2
        · rw [if_pos (Or.inr near), ← near, whole]
          exact iff_of_true rfl fun captured => outside (near ▸ captured.1)
  · rw [if_neg fun written => owns written.2, denoted_of_dotted (mem_dot_of_importable importable)]
    exact iff_of_true rfl fun captured => owns captured.2.1

/-- A class outside the implicit package is faithful unless a type that it mentions is captured. -/
theorem faithful_iff {spec : ClassSpec} (outside : namespaceOf spec.qualifiedName ≠ implicitPackage) :
    Faithful generated spec ↔
      ∀ name, ¬ IsCaptured generated spec.qualifiedName (classMentions spec) name := by
  unfold Faithful
  rw [imports_classUnit, transcript_eq, List.forall_mem_map]
  constructor
  · intro faithful name captured
    rcases List.mem_cons.1 (mem_of_owner? captured.2.1) with rfl | claimed
    · exact outside captured.1
    · obtain ⟨mem, importable⟩ := List.mem_filter.1 claimed
      exact (denoted_spelling_iff _ outside importable).1 (faithful name mem importable) captured
  · intro free name mem importable
    exact (denoted_spelling_iff _ outside importable).2 (free name)

end EntityGen.Java
