/-
  Proofs/Java/Settled.lean --- settled names.

  Source: `Java/Resolver.lean`: a simple name keeps its first owner.

  What a file writes for a type does not change while the file is written. Every part of it
  can therefore be looked at with the names as they are in the end, when all types that the
  file mentions are known: nothing is claimed any more, and the parts do not depend on their
  order.
-/
import EntityGen.Proofs.Java.Mentions

set_option autoImplicit false

namespace EntityGen.Java

open EntityGen.Blueprint (ClassSpec Member Method Tag)
open EntityGen.Layout (Fragment)
open EntityGen.Naming (simpleNameOf)
open Resolver (isImportable)

variable {α β γ : Type}

/-! ## Known types -/

namespace Resolver

/-- What an action makes of the names as they are. -/
def answer (names : Resolver) (action : StateM Resolver α) : α :=
  (action.run names).1

theorem answer_pure (names : Resolver) (value : α) : names.answer (pure value) = value :=
  rfl

/-- The names after types have been mentioned. -/
def after (names : Resolver) (mentions : List String) : Resolver :=
  ((mentions.mapM resolve).run names).2

theorem after_append (names : Resolver) (mentions more : List String) :
    names.after (mentions ++ more) = (names.after mentions).after more := by
  have both := run_mapM_append mentions more names
  unfold after
  rw [both]

/-- Mentioning one of these types changes nothing. -/
def Knows (names : Resolver) (mentions : List String) : Prop :=
  ∀ name ∈ mentions, ((resolve name).run names).2 = names

variable {names : Resolver} {mentions more : List String}

theorem Knows.mono (known : names.Knows more) (subset : mentions ⊆ more) : names.Knows mentions :=
  fun name mem => known name (subset mem)

theorem Knows.left (known : names.Knows (mentions ++ more)) : names.Knows mentions :=
  known.mono (List.subset_append_left mentions more)

theorem Knows.right (known : names.Knows (mentions ++ more)) : names.Knows more :=
  known.mono (List.subset_append_right mentions more)

theorem Knows.of_mem_flatMap {mentionsOf : α → List String} {items : List α}
    (known : names.Knows (items.flatMap mentionsOf)) {item : α} (mem : item ∈ items) :
    names.Knows (mentionsOf item) :=
  known.mono fun _ here => List.mem_flatMap.2 ⟨item, mem, here⟩

theorem Knows.run_mapM_resolve (known : names.Knows mentions) :
    (mentions.mapM resolve).run names =
      (mentions.map fun name => names.answer (resolve name), names) := by
  induction mentions with
  | nil => rfl
  | cons name rest ih =>
    have first : ((resolve name).run names).2 = names := known name List.mem_cons_self
    rw [run_mapM_cons, first, ih fun other mem => known other (List.mem_cons_of_mem _ mem)]
    rfl

theorem Knows.after_eq (known : names.Knows mentions) : names.after mentions = names :=
  congrArg Prod.snd known.run_mapM_resolve

end Resolver

/-- In the end every mentioned type is known. -/
theorem knows_resolverAfter (declared : String) (calls : List String) :
    (resolverAfter declared calls).Knows calls := by
  intro name mem
  have represented := represents_resolverAfter declared calls
  change (Resolver.resolve name (resolverAfter declared calls)).2 = _
  unfold Resolver.resolve
  by_cases importable : isImportable name = true
  · have claimant : name ∈ declared :: calls.filter isImportable :=
      List.mem_cons_of_mem _ (List.mem_filter.2 ⟨mem, importable⟩)
    obtain ⟨owner, owns⟩ := exists_owner?_of_mem claimant
    simp only [importable, if_true, represented.claimed, owns]
  · simp only [importable, if_false, Bool.false_eq_true]

/-- In the end a mentioned type is written as its claimants have it. -/
theorem answer_resolve {declared : String} {calls : List String} {name : String}
    (mem : name ∈ calls) :
    (resolverAfter declared calls).answer (Resolver.resolve name) =
      spelling (claimants declared calls) name := by
  obtain ⟨next, run, -⟩ := (represents_resolverAfter declared calls).resolve name
  rw [Resolver.answer, run]
  by_cases importable : isImportable name = true
  · have claimant : name ∈ claimants declared calls :=
      List.mem_cons_of_mem _ (List.mem_filter.2 ⟨mem, importable⟩)
    exact spelling_append claimant _
  · rw [spelling_of_not_importable importable, spelling_of_not_importable importable]

/-! ## Actions -/

section Actions

variable {names : Resolver} {action : StateM Resolver α} {mentions : List String}

theorem Asks.state_eq (asks : Asks action mentions) :
    (action.run names).2 = names.after mentions := by
  obtain ⟨fill, run⟩ := asks
  rw [run]
  rfl

/-- What comes next is done with the names after what has been mentioned. -/
theorem Asks.answer_bind_after (asks : Asks action mentions) (next : α → StateM Resolver β) :
    names.answer (action >>= next) = (names.after mentions).answer (next (names.answer action)) := by
  rw [Resolver.answer, run_bind, asks.state_eq]
  rfl

theorem Asks.answer_bind (asks : Asks action mentions) (known : names.Knows mentions)
    (next : α → StateM Resolver β) :
    names.answer (action >>= next) = names.answer (next (names.answer action)) := by
  rw [asks.answer_bind_after, known.after_eq]

/-- An action makes the same of the same spellings. -/
theorem Asks.answer_congr {others : Resolver} (asks : Asks action mentions)
    (known : names.Knows mentions) (known' : others.Knows mentions)
    (same : ∀ name ∈ mentions,
      names.answer (Resolver.resolve name) = others.answer (Resolver.resolve name)) :
    names.answer action = others.answer action := by
  obtain ⟨fill, run⟩ := asks
  have answers : (mentions.map fun name => names.answer (Resolver.resolve name)) =
      mentions.map fun name => others.answer (Resolver.resolve name) := List.map_congr_left same
  rw [Resolver.answer, Resolver.answer, run, run, known.run_mapM_resolve, known'.run_mapM_resolve,
    answers]

theorem answer_mapM {step : α → StateM Resolver β} {mentionsOf : α → List String}
    (each : ∀ item, Asks (step item) (mentionsOf item)) {items : List α}
    (known : names.Knows (items.flatMap mentionsOf)) :
    names.answer (items.mapM step) = items.map fun item => names.answer (step item) := by
  induction items with
  | nil => rfl
  | cons item rest ih =>
    rw [List.flatMap_cons] at known
    rw [List.mapM_cons, (each item).answer_bind known.left,
      (Asks.mapM each rest).answer_bind known.right, ih known.right]
    rfl

/-- Results that are put one after the other. -/
theorem answer_foldlM_append {step : α → StateM Resolver β} {mentionsOf : α → List String}
    (each : ∀ item, Asks (step item) (mentionsOf item)) (view : β → List γ) {items : List α}
    (known : names.Knows (items.flatMap mentionsOf)) (start : List γ) :
    names.answer
        (items.foldlM (fun all item => do return all ++ view (← step item)) start) =
      start ++ items.flatMap fun item => view (names.answer (step item)) := by
  induction items generalizing start with
  | nil => exact (List.append_nil start).symm
  | cons item rest ih =>
    rw [List.flatMap_cons] at known
    have first : Asks (step item >>= fun value => pure (start ++ view value)) (mentionsOf item) :=
      (each item).map fun value => start ++ view value
    have here : names.answer (step item >>= fun value => pure (start ++ view value)) =
        start ++ view (names.answer (step item)) := (each item).answer_bind known.left _
    rw [List.foldlM_cons, first.answer_bind known.left, here, ih known.right, List.flatMap_cons,
      List.append_assoc]

/-- What an action answers in the middle of a file is what it answers in the end. -/
theorem Asks.answer_settled (asks : Asks action mentions) (declared : String)
    (before after : List String) :
    (resolverAfter declared before).answer action =
      (resolverAfter declared (before ++ mentions ++ after)).answer action := by
  obtain ⟨fill, run⟩ := asks
  have spell : ∀ calls : List String,
      ((mentions.mapM Resolver.resolve).run (resolverAfter declared calls)).1 =
        mentions.map (spelling (claimants declared (calls ++ mentions))) := by
    intro calls
    obtain ⟨next, walked, -⟩ := (represents_resolverAfter declared calls).mapM_resolve mentions
    rw [walked, claimants, List.filter_append]
  have early : mentions.map (spelling (claimants declared (before ++ mentions))) =
      mentions.map (spelling (claimants declared (before ++ mentions ++ after ++ mentions))) := by
    refine List.map_congr_left fun name mem => ?_
    by_cases importable : isImportable name = true
    · have claimant : name ∈ claimants declared (before ++ mentions) :=
        List.mem_cons_of_mem _
          (List.mem_filter.2 ⟨List.mem_append_right _ mem, importable⟩)
      have order : claimants declared (before ++ mentions ++ after ++ mentions) =
          claimants declared (before ++ mentions) ++ (after ++ mentions).filter isImportable := by
        rw [claimants, claimants, List.cons_append, ← List.filter_append,
          List.append_assoc (before ++ mentions)]
      rw [order, spelling_append claimant]
    · rw [spelling_of_not_importable importable, spelling_of_not_importable importable]
  rw [Resolver.answer, Resolver.answer, run, run, spell, spell, early]

end Actions

/-! ## Classes -/

/-- The names of the file of a class in the end. -/
def settled (spec : ClassSpec) : Resolver :=
  resolverAfter spec.qualifiedName (classMentions spec)

theorem knows_settled (spec : ClassSpec) : (settled spec).Knows (classMentions spec) :=
  knows_resolverAfter _ _

/-- The file of a class is what is written with the names as they are in the end. -/
theorem classUnit_eq_settled (spec : ClassSpec) :
    classUnit spec = ⟨spec.packageName, (settled spec).importedNames,
      [(settled spec).answer (classFragments spec)]⟩ := by
  have body : ((classFragments spec).run (Resolver.declaring spec.qualifiedName)).1 =
      (settled spec).answer (classFragments spec) := by
    have whole := (asks_classFragments spec).answer_settled spec.qualifiedName [] []
    rwa [List.nil_append, List.append_nil] at whole
  rw [← body, settled, ← imports_classUnit]
  rfl

variable {names : Resolver}

/-- The lines of the annotation of a tag, with these names claimed before. -/
def annotationLines (names : Resolver) (tag : Tag) : List String :=
  names.answer <| annotation tag

theorem answer_tagLines {tags : List Tag} (known : names.Knows (tags.flatMap tagMentions)) :
    names.answer (tagLines tags) = tags.flatMap (annotationLines names) := by
  have lines := answer_foldlM_append asks_tag id known []
  rwa [List.nil_append] at lines

theorem answer_tagFragments {tags : List Tag} (known : names.Knows (tags.flatMap tagMentions)) :
    names.answer (tagFragments tags) =
      (tags.flatMap (annotationLines names)).map Fragment.line := by
  have lines : Asks (tagLines tags) (tags.flatMap tagMentions) :=
    Asks.foldlM (fun lines tag => (asks_tag tag).map (lines ++ ·)) tags []
  rw [← answer_tagLines known]
  exact lines.answer_bind known _

theorem answer_spaced {render : α → StateM Resolver (List Fragment)} {mentionsOf : α → List String}
    (each : ∀ item, Asks (render item) (mentionsOf item)) {items : List α}
    (known : names.Knows (items.flatMap mentionsOf)) :
    names.answer (spaced render items) =
      items.flatMap fun item => .blank :: names.answer (render item) := by
  have all := answer_foldlM_append each (Fragment.blank :: ·) known []
  rwa [List.nil_append] at all

/-- The parts of a class, one after the other. -/
theorem answer_classFragments {spec : ClassSpec} (known : names.Knows (classMentions spec)) :
    names.answer (classFragments spec) =
      docFragments spec.doc ++
        (spec.tags.flatMap (annotationLines names)).map Fragment.line ++
        [block
          (declarationText spec
            (spec.interfaces.map fun name => names.answer (Resolver.resolve name)))
          ((spec.fields.flatMap fun member => .blank :: names.answer (memberFragments member)) ++
            spec.methods.flatMap fun method =>
              .blank :: names.answer (methodFragments spec.simpleName method))] := by
  have knownTags := known.left
  have knownInterfaces := known.right.left
  have knownFields := known.right.right.left
  have knownMethods := known.right.right.right
  have interfaces : names.answer (spec.interfaces.mapM Resolver.resolve) =
      spec.interfaces.map fun name => names.answer (Resolver.resolve name) :=
    answer_mapM Asks.resolve (by rwa [List.flatMap_singleton'])
  rw [classFragments, (asks_tagFragments _).answer_bind knownTags,
    (asks_interfaces _).answer_bind knownInterfaces,
    (asks_spaced asks_memberFragments _).answer_bind knownFields,
    (asks_spaced (asks_methodFragments _) _).answer_bind knownMethods,
    answer_tagFragments knownTags, interfaces, answer_spaced asks_memberFragments knownFields,
    answer_spaced (asks_methodFragments _) knownMethods]
  rfl

/-! ## Members -/

/-- The field without its annotations. -/
def bareMember (member : Member) : Member :=
  { member with tags := [] }

/-- The method without its comment and its annotations. -/
def bareMethod (method : Method) : Method :=
  { method with doc := none, tags := [] }

theorem fieldMentions_bareMember (member : Member) :
    fieldMentions (bareMember member) = typeMentions member.type :=
  rfl

/-- Annotations stand before a field. -/
theorem memberFragments_eq_bind (member : Member) :
    memberFragments member = tagFragments member.tags >>= fun tags =>
      memberFragments (bareMember member) >>= fun rest => pure (tags ++ rest) :=
  rfl

/-- Its comment and its annotations stand before a method. -/
theorem methodFragments_eq_bind (simpleName : String) (method : Method) :
    methodFragments simpleName method = tagFragments method.tags >>= fun tags =>
      methodFragments simpleName (bareMethod method) >>= fun rest =>
        pure (docFragments method.doc ++ tags ++ rest) := by
  have abstract : (bareMethod method).isAbstract = method.isAbstract := rfl
  unfold methodFragments
  rw [abstract]
  cases method.isAbstract with
  | true => rfl
  | false => rfl

theorem answer_memberFragments {member : Member} (known : names.Knows (fieldMentions member)) :
    names.answer (memberFragments member) =
      (member.tags.flatMap (annotationLines names)).map Fragment.line ++
        names.answer (memberFragments (bareMember member)) := by
  rw [memberFragments_eq_bind, (asks_tagFragments _).answer_bind known.left,
    (asks_memberFragments (bareMember member)).answer_bind known.right,
    answer_tagFragments known.left]
  rfl

theorem answer_methodFragments {simpleName : String} {method : Method}
    (known : names.Knows (methodMentions method)) :
    names.answer (methodFragments simpleName method) =
      docFragments method.doc ++
        (method.tags.flatMap (annotationLines names)).map Fragment.line ++
        names.answer (methodFragments simpleName (bareMethod method)) := by
  rw [methodFragments_eq_bind, (asks_tagFragments _).answer_bind known.left,
    (asks_methodFragments simpleName (bareMethod method)).answer_bind known.right,
    answer_tagFragments known.left]
  rfl

end EntityGen.Java
