/-
  Proofs/Java/Opacity.lean --- free texts are opaque.

  Source: the specification, section 4.3 (query text is never inspected) and section 7
  (query text against declared signature is not checked).

  Two models that differ only in the descriptions of their objects and in the texts of their
  queries are told apart by nothing but these texts: the same is found in them, they are
  refused for the same reason, and otherwise their programs are the same class by class, but
  for the comment of an entity and the texts of the queries that its tags list. No import is
  there because of a text, and access interfaces have the same files.
-/
import EntityGen.Proofs.Java.Independence
import EntityGen.Proofs.Lint.Texts

set_option autoImplicit false

namespace EntityGen.Java

open EntityGen.Blueprint (ClassSpec Tag TagKind TagValue Variant daoInterface entityClass)
open EntityGen.Compile (CompileFault listed objectClasses)
open EntityGen.Files (FileEntry)
open EntityGen.Model (AlikeButTexts BusinessObject DataModel)

/-! ## Mentioned types -/

theorem valueMentions_withoutText (kind : TagKind) (name : String) (value : TagValue) :
    valueMentions kind (value.withoutText name) = valueMentions kind value := by
  cases value with
  | text content => rfl
  | flag value => rfl
  | number value => rfl
  | constant name => rfl
  | texts items => rfl
  | tags nested => rfl

/-- The attributes of a tag mention the same types when each of their values does. -/
theorem attributeMentions_map {kind : TagKind} {change : String × TagValue → TagValue}
    (each : ∀ entry, valueMentions kind (change entry) = valueMentions kind entry.2)
    (attributes : List (String × TagValue)) :
    attributeMentions kind (attributes.map fun entry => (entry.1, change entry)) =
      attributeMentions kind attributes := by
  induction attributes with
  | nil => rfl
  | cons entry rest ih =>
    obtain ⟨name, value⟩ := entry
    rw [List.map_cons, attributeMentions, attributeMentions, ih, each]

theorem tagMentions_withoutText (tag : Tag) : tagMentions tag.withoutText = tagMentions tag := by
  obtain ⟨kind, attributes⟩ := tag
  cases kind with
  | namedQuery =>
    rw [Tag.withoutText, tagMentions, tagMentions,
      attributeMentions_map fun entry => valueMentions_withoutText .namedQuery entry.1 entry.2]
  | _ => rfl

theorem nestedMentions_withoutText (nested : List Tag) :
    nestedMentions (nested.map Tag.withoutText) = nestedMentions nested := by
  induction nested with
  | nil => rfl
  | cons tag rest ih => rw [List.map_cons, nestedMentions, nestedMentions, ih, tagMentions_withoutText]

theorem valueMentions_withoutTexts (kind : TagKind) (value : TagValue) :
    valueMentions kind value.withoutTexts = valueMentions kind value := by
  cases value with
  | tags nested =>
    rw [TagValue.withoutTexts, valueMentions, valueMentions, nestedMentions_withoutText]
  | text content => rfl
  | flag value => rfl
  | number value => rfl
  | constant name => rfl
  | texts items => rfl

theorem tagMentions_withoutTexts (tag : Tag) : tagMentions tag.withoutTexts = tagMentions tag := by
  obtain ⟨kind, attributes⟩ := tag
  rw [Tag.withoutTexts, tagMentions, tagMentions,
    attributeMentions_map fun entry => valueMentions_withoutTexts kind entry.2]

/-- No type is mentioned in a text. -/
theorem classMentions_withoutTexts (spec : ClassSpec) :
    classMentions spec.withoutTexts = classMentions spec := by
  unfold classMentions
  simp only [ClassSpec.withoutTexts, List.flatMap_map, tagMentions_withoutTexts]

/-- Nothing is imported because of a text. -/
theorem imports_withoutTexts (spec : ClassSpec) :
    (classUnit spec.withoutTexts).imports = (classUnit spec).imports := by
  rw [imports_classUnit, imports_classUnit, classMentions_withoutTexts]
  rfl

/-! ## Classes -/

/-- Classes that are told apart by texts at most: by their comments and by the texts of the queries
that their tags list. Interfaces are not told apart at all. -/
structure DifferInTexts (spec theirs : ClassSpec) : Prop where
  /-- Everything else is the same. -/
  rest : spec.withoutTexts = theirs.withoutTexts
  /-- Their files have the same path. -/
  path : (classFile spec).path = (classFile theirs).path
  /-- Their files have the same imports. -/
  imports : (classUnit spec).imports = (classUnit theirs).imports
  /-- The files of interfaces are the same, byte by byte. -/
  interface : spec.isInterface = true → classFile spec = classFile theirs

theorem DifferInTexts.refl (spec : ClassSpec) : DifferInTexts spec spec :=
  ⟨rfl, rfl, rfl, fun _ => rfl⟩

/-- The entities of objects that are the same but for their texts are the same but for them. -/
theorem differInTexts_of_entityClass {variant : Variant} {object other : BusinessObject}
    (alike : object.withoutTexts = other.withoutTexts) {spec theirs : ClassSpec}
    (made : entityClass variant object = .ok spec) (made' : entityClass variant other = .ok theirs) :
    DifferInTexts spec theirs := by
  have erased := Blueprint.entityClass_withoutTexts variant object
  have erased' := Blueprint.entityClass_withoutTexts variant other
  rw [made] at erased
  rw [alike, erased', made'] at erased
  have rest : spec.withoutTexts = theirs.withoutTexts := (Except.ok.inj erased).symm
  have name := congrArg ClassSpec.qualifiedName rest
  refine ⟨rest, ?_, ?_, ?_⟩
  · change FileEntry.classPath spec.qualifiedName _ = FileEntry.classPath theirs.qualifiedName _
    exact congrArg (FileEntry.classPath · fileExtension) name
  · rw [← imports_withoutTexts spec, rest, imports_withoutTexts]
  · intro isInterface
    rw [Blueprint.isInterface_of_entityClass made] at isInterface
    cases isInterface

/-- The access interfaces of such objects are the same. -/
theorem eq_of_daoInterface {object other : BusinessObject}
    (alike : object.withoutTexts = other.withoutTexts) {spec theirs : ClassSpec}
    (made : daoInterface object = .ok spec) (made' : daoInterface other = .ok theirs) :
    spec = theirs := by
  rw [← Blueprint.daoInterface_withoutTexts, alike, Blueprint.daoInterface_withoutTexts,
    made'] at made
  exact (Except.ok.inj made).symm

/-- The classes of models that are the same but for their texts, one by one. -/
theorem differInTexts_listed {variant : Variant} {objects others : List BusinessObject}
    (alike : AlikeButTexts objects others) {pairs theirs : List (ClassSpec × ClassSpec)}
    (walked : objects.mapM (objectClasses variant) = .ok pairs)
    (again : others.mapM (objectClasses variant) = .ok theirs) :
    List.Forall₂ DifferInTexts (listed pairs) (listed theirs) := by
  have related : List.Forall₂ (fun object other => object.withoutTexts = other.withoutTexts)
      objects others := by
    have erased : List.Forall₂ Eq (objects.map BusinessObject.withoutTexts)
        (others.map BusinessObject.withoutTexts) := by
      rw [List.forall₂_eq_eq_eq]
      exact alike
    exact List.forall₂_map_left_iff.1 (List.forall₂_map_right_iff.1 erased)
  have each : List.Forall₂
      (fun pair theirs : ClassSpec × ClassSpec => DifferInTexts pair.1 theirs.1 ∧ pair.2 = theirs.2)
      pairs theirs := by
    refine forall₂_of_mapM related ?_ walked again
    intro object other same pair pair' made made'
    obtain ⟨entity, dao⟩ := Compile.objectClasses_eq_ok_iff.1 made
    obtain ⟨entity', dao'⟩ := Compile.objectClasses_eq_ok_iff.1 made'
    exact ⟨differInTexts_of_entityClass same entity entity', eq_of_daoInterface same dao dao'⟩
  clear walked again
  induction each with
  | nil => exact .nil
  | @cons pair pair' pairs theirs here _ ih =>
    have dao : DifferInTexts pair.2 pair'.2 := here.2 ▸ DifferInTexts.refl pair.2
    exact .cons here.1 (.cons dao ih)

/-- A model that is refused is refused for the same reason with other texts. -/
theorem compile_eq_error_of_alike {model other : DataModel}
    (alike : AlikeButTexts model.objects other.objects) {variant : Variant} {fault : CompileFault}
    (refused : Compile.compile variant [] model = .error fault) :
    Compile.compile variant [] other = .error fault := by
  cases errors : (Compile.check variant model).hasErrors with
  | true =>
    have errors' : (Compile.check variant other).hasErrors = true := by
      rw [← Compile.hasErrors_eq_of_alike alike, errors]
    rw [Compile.compile_of_hasErrors errors, Compile.Context.errors,
      Compile.diagnostics_eq_of_alike alike] at refused
    rw [Compile.compile_of_hasErrors errors', Compile.Context.errors, refused]
  | false =>
    have clean := (Compile.hasErrors_check_eq_false_iff variant).1 errors
    obtain ⟨pairs, program, -, -, compiled⟩ := clean.exists_compile variant
    cases compiled.symm.trans refused

/-! ## Main result -/

/-- Models that are the same but for the descriptions of their objects and the texts of their queries:
the same is found in both; if one is refused, so is the other, with the same fault; and otherwise both
have programs, the classes of which are told apart by texts at most. -/
theorem texts_opaque {model other : DataModel} (alike : AlikeButTexts model.objects other.objects)
    (variant : Variant) :
    (Compile.check variant model).diagnostics = (Compile.check variant other).diagnostics ∧
    (∀ fault, Compile.compile variant [] model = .error fault ↔
      Compile.compile variant [] other = .error fault) ∧
    ∀ program, programOf variant model = .ok program →
      ∃ theirs, programOf variant other = .ok theirs ∧
        List.Forall₂ DifferInTexts program.items theirs.items := by
  refine ⟨Compile.diagnostics_eq_of_alike alike variant, ?_, ?_⟩
  · intro fault
    exact ⟨compile_eq_error_of_alike alike, compile_eq_error_of_alike alike.symm⟩
  · intro program made
    obtain ⟨clean, pairs, walked, items⟩ := programOf_eq_ok_iff.1 made
    have clean' := Compile.Clean.of_alike alike clean
    obtain ⟨pairs', theirs, again, -, items'⟩ := clean'.exists_buildProgram variant
    refine ⟨theirs, programOf_eq_ok_iff.2 ⟨clean', pairs', again, items'⟩, ?_⟩
    rw [items, items']
    exact differInTexts_listed alike walked again

/-- A model with a description and a query. -/
def reviews : DataModel where
  items := [{
    qualifiedName := "org.acme.Review"
    description := some "What somebody thinks of something."
    fields := [⟨"written", .date, false, none⟩]
    queries := [⟨"latest", "SELECT r FROM Review r", "java.util.List", []⟩]
    uniqueConstraints := [] }]
  distinct := by decide

/-- The same model with other texts, which look like what is generated. -/
def reworded : DataModel where
  items := [{
    qualifiedName := "org.acme.Review"
    description := some "*/ import java.util.Map; /*"
    fields := [⟨"written", .date, false, none⟩]
    queries := [⟨"latest", "\") import java.util.Set;", "java.util.List", []⟩]
    uniqueConstraints := [] }]
  distinct := by decide

theorem texts_opaque_reworded :
    AlikeButTexts reviews.objects reworded.objects ∧
      (Compile.check .server reviews).diagnostics = (Compile.check .server reworded).diagnostics ∧
      (∀ fault, Compile.compile .server [] reviews = .error fault ↔
        Compile.compile .server [] reworded = .error fault) ∧
      ∃ program theirs, programOf .server reviews = .ok program ∧
        programOf .server reworded = .ok theirs ∧
        List.Forall₂ DifferInTexts program.items theirs.items := by
  have alike : AlikeButTexts reviews.objects reworded.objects := rfl
  obtain ⟨diagnostics, faults, programs⟩ := texts_opaque alike .server
  have noErrors : (Compile.check .server reviews).hasErrors = false := by decide +kernel
  obtain ⟨program, made⟩ := exists_programOf noErrors
  obtain ⟨theirs, made', classes⟩ := programs program made
  exact ⟨alike, diagnostics, faults, program, theirs, made, made', classes⟩

end EntityGen.Java
