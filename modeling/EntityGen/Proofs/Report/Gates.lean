/-
  Proofs/Report/Gates.lean --- the gates of a model.

  Source: the specification, section 6 (`bdm check`, `bdm generate --dry-run`)
  and section 7.

  A model passes three gates: the report on a check, a compilation, and a run of the
  generator that only shows files. They let the same models through. What the run shows is
  two files for each object, in the order of the model, and the warnings are the findings of
  the check.
-/
import EntityGen.Files.Tree
import EntityGen.Proofs.Compile.Build
import EntityGen.Report.Check
import EntityGen.Report.Generate

set_option autoImplicit false

namespace EntityGen.Report

open EntityGen.Blueprint (Variant daoName)
open EntityGen.Compile (Clean CompileFault Context listed objectClasses)
open EntityGen.Files (FileEntry Volume treeVolume)
open EntityGen.Lint (Diagnostic)
open EntityGen.Model (BusinessObject DataModel)

/-! ## The check -/

/-- A report is valid if the checks find no error, for whichever variant. -/
theorem isValid_checkModel_iff {model : DataModel} {path : String} :
    (checkModel model path).isValid = true ↔ Clean model := by
  rw [← Compile.hasErrors_check_eq_false_iff .server]
  simp [CheckReport.isValid, CheckReport.errorCount, checkModel, Context.hasErrors,
    List.countP_eq_zero]

/-! ## The run that only shows files -/

/-- What a run that only shows files answers. -/
def preview (variant : Variant) (model : DataModel) : Except GenerateFault GenerateReport := do
  let (warnings, registry) ← generateSources variant model
  return ⟨variant, model.size, warnings, .preview registry.entries⟩

/-- A run that only shows files leaves the volume alone. -/
theorem generate_dryRun {m : Type → Type} [Monad m] {Handle : Type} (volume : Volume m Handle)
    (model : DataModel) (directory : String) (variant : Variant) :
    generate volume model ⟨directory, true, variant⟩ = pure (preview variant model) := by
  unfold generate preview
  cases generateSources variant model with
  | error fault => rfl
  | ok found => rfl

/-- Without errors every finding is a warning. -/
theorem warnings_of_clean {variant : Variant} {model : DataModel} (clean : Clean model) :
    (Compile.check variant model).warnings = (Compile.check variant model).diagnostics := by
  have noErrors := (Compile.hasErrors_check_eq_false_iff variant).2 clean
  rw [Context.hasErrors, List.any_eq_false] at noErrors
  rw [Context.warnings, List.filter_eq_self]
  intro finding mem
  have harmless := noErrors finding mem
  cases severity : finding.severity with
  | error => simp [Diagnostic.isError, severity] at harmless
  | warning => simp [Diagnostic.isWarning, severity]

/-- The files of a clean model are those of the classes of its objects. -/
theorem preview_of_clean {variant : Variant} {model : DataModel} (clean : Clean model) :
    ∃ pairs, model.objects.mapM (objectClasses variant) = .ok pairs ∧
      preview variant model = .ok ⟨variant, model.size,
        (Compile.check variant model).diagnostics.map Diagnostic.text,
        .preview ((listed pairs).map Java.classFile)⟩ := by
  obtain ⟨pairs, program, made, items, compiled⟩ := clean.exists_compile variant
  refine ⟨pairs, made, ?_⟩
  have sources : generateSources variant model =
      .ok ((Compile.check variant model).diagnostics.map Diagnostic.text,
        ⟨(listed pairs).map Java.classFile⟩) := by
    rw [← warnings_of_clean clean, ← items, generateSources, compiled]
    rfl
  rw [preview, sources]
  rfl

/-- A run that only shows files fails on every other model. -/
theorem clean_of_preview {variant : Variant} {model : DataModel} {report : GenerateReport}
    (shown : preview variant model = .ok report) : Clean model := by
  unfold preview generateSources at shown
  simp only [bind_eq_ok_iff, mapError_eq_ok_iff] at shown
  obtain ⟨-, ⟨context, compiled, -⟩, -⟩ := shown
  exact (Compile.compile_eq_ok_iff.1 compiled).1

/-- The paths of the files: for each object that of its entity and that of its interface. -/
theorem paths_listed {variant : Variant} {objects : List BusinessObject}
    {pairs : List (Blueprint.ClassSpec × Blueprint.ClassSpec)}
    (made : objects.mapM (objectClasses variant) = .ok pairs) :
    ((listed pairs).map Java.classFile).map FileEntry.path =
      objects.flatMap fun object =>
        [FileEntry.classPath object.qualifiedName Java.fileExtension,
         FileEntry.classPath (daoName object) Java.fileExtension] := by
  have byName : ((listed pairs).map Java.classFile).map FileEntry.path =
      ((listed pairs).map Blueprint.ClassSpec.qualifiedName).map fun name =>
        FileEntry.classPath name Java.fileExtension := by
    rw [List.map_map, List.map_map]
    rfl
  rw [byName, Compile.names_listed made, List.map_flatMap]
  rfl

/-! ## Agreement -/

/-- The report on a check is valid exactly if the compilation ends well, and exactly if a run that
only shows files does; building never fails on a model without errors. What the run then shows are
two files for each object, in the order of the model, and its warnings are the findings of the check
in their order. -/
theorem gates_agree {m : Type → Type} [Monad m] {Handle : Type} (volume : Volume m Handle)
    (model : DataModel) (variant : Variant) (path directory : String) :
    ((checkModel model path).isValid = true ↔
      ∃ context, Compile.compile variant [] model = .ok context) ∧
    generate volume model ⟨directory, true, variant⟩ = pure (preview variant model) ∧
    ((checkModel model path).isValid = true ↔ ∃ report, preview variant model = .ok report) ∧
    ((checkModel model path).isValid = true →
      ∃ program, Compile.buildProgram variant model = .ok program) ∧
    ∀ report, preview variant model = .ok report →
      report.warnings = (checkModel model path).diagnostics.map Diagnostic.text ∧
      ∃ pairs, model.objects.mapM (objectClasses variant) = .ok pairs ∧
        report.result = .preview ((listed pairs).map Java.classFile) ∧
        ((listed pairs).map Java.classFile).map FileEntry.path =
          model.objects.flatMap fun object =>
            [FileEntry.classPath object.qualifiedName Java.fileExtension,
             FileEntry.classPath (daoName object) Java.fileExtension] := by
  rw [isValid_checkModel_iff]
  refine ⟨⟨fun clean => ?_, fun compiled => ?_⟩, generate_dryRun volume model directory variant,
    ⟨fun clean => ?_, fun shown => ?_⟩, fun clean => ?_, fun report shown => ?_⟩
  · obtain ⟨_, _, _, _, compiled⟩ := clean.exists_compile variant
    exact ⟨_, compiled⟩
  · obtain ⟨context, compiled⟩ := compiled
    exact (Compile.compile_eq_ok_iff.1 compiled).1
  · obtain ⟨_, _, shown⟩ := preview_of_clean clean
    exact ⟨_, shown⟩
  · obtain ⟨report, shown⟩ := shown
    exact clean_of_preview shown
  · obtain ⟨-, program, -, built, -⟩ := clean.exists_buildProgram variant
    exact ⟨program, built⟩
  · obtain ⟨pairs, made, whole⟩ := preview_of_clean (clean_of_preview shown)
    cases whole.symm.trans shown
    exact ⟨rfl, pairs, made, rfl, paths_listed made⟩

/-- An object with a query that yields neither many objects nor this one. -/
def leased : DataModel where
  items := [⟨"org.acme.Lease", none, [⟨"tenant", .string, false, none⟩],
    [⟨"latest", "SELECT l FROM Lease l", "Contract", []⟩], []⟩]
  distinct := by decide

theorem gates_agree_leased :
    (checkModel leased "bom.toml").isValid = true ∧
      (∃ context, Compile.compile .client [] leased = .ok context) ∧
      ∃ report, generate treeVolume leased ⟨".", true, .client⟩ = pure (.ok report) ∧
        report.warnings = ["warning[query-return-type]: query 'latest' returns 'Contract', " ++
          "generating a single 'Lease' result instead (at org.acme.Lease.queries.latest)"] ∧
        ∃ files, report.result = .preview files ∧
          files.map FileEntry.path = ["org/acme/Lease.java", "org/acme/LeaseDAO.java"] := by
  have valid : (checkModel leased "bom.toml").isValid = true := by decide +kernel
  have found : (checkModel leased "bom.toml").diagnostics.map Diagnostic.text =
      ["warning[query-return-type]: query 'latest' returns 'Contract', " ++
        "generating a single 'Lease' result instead (at org.acme.Lease.queries.latest)"] := by
    decide +kernel
  obtain ⟨compiles, runs, shows, -, whole⟩ := gates_agree treeVolume leased .client "bom.toml" "."
  obtain ⟨report, shown⟩ := shows.1 valid
  obtain ⟨warnings, pairs, -, files, paths⟩ := whole report shown
  refine ⟨valid, compiles.1 valid, report, by rw [runs, shown], warnings.trans found, _, files, ?_⟩
  rw [paths]
  decide

end EntityGen.Report
