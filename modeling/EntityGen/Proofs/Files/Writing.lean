/-
  Proofs/Files/Writing.lean --- all files or none.

  Source: the specification, section 4.5: a staging failure leaves no target touched, and
  errors carry the failing path.

  All files are staged before the first one is moved to its place. So a file that cannot be
  staged leaves everything as it was, and one that cannot be moved keeps the files before it
  and no other.

  A file that cannot be moved is not foreseen by the specification; what is left then is
  said here as well.
-/
import EntityGen.Files.Registry
import EntityGen.Proofs.Files.Tree

set_option autoImplicit false

namespace EntityGen.Files

variable {σ Site Handle : Type}

/-! ## Where a run stops -/

/-- A run that takes items one after the other and keeps what it makes of them. It stops at the
first fault, after something is undone. -/
structure StopsAtFault {α β ε : Type} (step : α → StateM σ (Except ε β))
    (undo : List β → List α → StateM σ Unit)
    (run : List β → List α → StateM σ (Except ε (List β))) : Prop where
  nil : ∀ before, run before [] = pure (.ok before)
  cons : ∀ before item items, run before (item :: items) = step item >>= fun outcome =>
    match outcome with
    | .ok made => run (before ++ [made]) items
    | .error fault => undo before items >>= fun _ => pure (.error fault)

/-- Staging stops at the first fault, and the files that are staged are discarded. -/
theorem stopsAtFault_stageAll (volume : Volume (StateM σ) Handle) :
    StopsAtFault volume.stage (fun staged _ => volume.discardAll staged) volume.stageAll where
  nil _ := rfl
  cons _ _ _ := bind_congr fun outcome => by cases outcome <;> rfl

/-- Moving stops at the first fault, and the files that are left are discarded. -/
theorem stopsAtFault_commitAll (volume : Volume (StateM σ) Handle) :
    StopsAtFault volume.commit (fun _ left => volume.discardAll left) volume.commitAll where
  nil _ := rfl
  cons _ _ _ := bind_congr fun outcome => by cases outcome <;> rfl

namespace StopsAtFault

variable {α β ε : Type} {step : α → StateM σ (Except ε β)}
  {undo : List β → List α → StateM σ Unit}
  {run : List β → List α → StateM σ (Except ε (List β))} {before made : List β} {items : List α}
  {s s' : σ}

theorem nil_eq_ok_iff (stops : StopsAtFault step undo run) {result : Except ε (List β)} :
    (run before []).run s = (result, s') ↔ result = .ok before ∧ s' = s := by
  rw [stops.nil, run_pure_eq_iff]

/-- The first item is taken, and the run goes on if that succeeds. -/
theorem cons_eq_iff (stops : StopsAtFault step undo run) {item : α}
    {result : Except ε (List β)} : (run before (item :: items)).run s = (result, s') ↔
      (∃ one s₁, (step item).run s = (.ok one, s₁) ∧
        (run (before ++ [one]) items).run s₁ = (result, s')) ∨
      ∃ fault s₁, (step item).run s = (.error fault, s₁) ∧
        (undo before items).run s₁ = ((), s') ∧ result = .error fault := by
  rw [stops.cons, run_bind_eq_iff]
  constructor
  · rintro ⟨outcome, s₁, first, rest⟩
    cases outcome with
    | ok one => exact .inl ⟨one, s₁, first, rest⟩
    | error fault =>
      obtain ⟨⟨⟩, s₂, undoing, rest⟩ := run_bind_eq_iff.1 rest
      obtain ⟨rfl, rfl⟩ := run_pure_eq_iff.1 rest
      exact .inr ⟨fault, s₁, first, undoing, rfl⟩
  · rintro (⟨one, s₁, first, rest⟩ | ⟨fault, s₁, first, undoing, rfl⟩)
    · exact ⟨.ok one, s₁, first, rest⟩
    · exact ⟨.error fault, s₁, first,
        run_bind_eq_iff.2 ⟨(), s', undoing, run_pure_eq_iff.2 ⟨rfl, rfl⟩⟩⟩

theorem cons_eq_ok_iff (stops : StopsAtFault step undo run) {item : α} :
    (run before (item :: items)).run s = (.ok made, s') ↔
      ∃ one s₁, (step item).run s = (.ok one, s₁) ∧
        (run (before ++ [one]) items).run s₁ = (.ok made, s') := by
  rw [stops.cons_eq_iff]
  constructor
  · rintro (done | ⟨fault, s₁, -, -, same⟩)
    · exact done
    · cases same
  · exact .inl

/-- A run fails where it comes to an item that fails, after those before it. -/
theorem eq_error_iff (stops : StopsAtFault step undo run) {fault : ε} :
    (run before items).run s = (.error fault, s') ↔
      ∃ i item made s₁ s₂, items[i]? = some item ∧
        (run before (items.take i)).run s = (.ok made, s₁) ∧
        (step item).run s₁ = (.error fault, s₂) ∧
        (undo made (items.drop (i + 1))).run s₂ = ((), s') := by
  induction items generalizing before s with
  | nil =>
    rw [stops.nil_eq_ok_iff]
    constructor
    · rintro ⟨same, -⟩
      cases same
    · rintro ⟨i, item, -, -, -, among, -⟩
      rw [List.getElem?_nil] at among
      cases among
  | cons first rest ih =>
    rw [stops.cons_eq_iff]
    constructor
    · rintro (⟨one, s₁, taken, more⟩ | ⟨fault, s₁, fails, undoing, same⟩)
      · obtain ⟨i, item, made, s₂, s₃, among, earlier, fails, undoing⟩ := ih.1 more
        refine ⟨i + 1, item, made, s₂, s₃, among, ?_, fails, undoing⟩
        exact stops.cons_eq_ok_iff.2 ⟨one, s₁, taken, earlier⟩
      · cases same
        exact ⟨0, first, before, s, s₁, rfl, stops.nil_eq_ok_iff.2 ⟨rfl, rfl⟩, fails, undoing⟩
    · rintro ⟨i, item, made, s₁, s₂, among, earlier, fails, undoing⟩
      cases i with
      | zero =>
        cases among
        obtain ⟨same, rfl⟩ := stops.nil_eq_ok_iff.1 earlier
        cases same
        exact .inr ⟨fault, s₂, fails, undoing, rfl⟩
      | succ i =>
        obtain ⟨one, s₃, taken, more⟩ := stops.cons_eq_ok_iff.1 earlier
        exact .inl ⟨one, s₃, taken, ih.2 ⟨i, item, made, s₁, s₂, among, more, fails, undoing⟩⟩

end StopsAtFault

/-- Staging stops at the file at this position: those before it are staged, and it cannot be. -/
def StagingStops (volume : Volume (StateM σ) Handle) (files : List TextFile) (s : σ) (i : Nat)
    (fault : FileFault) : Prop :=
  ∃ file staged s₁ s₂, files[i]? = some file ∧
    (volume.stageAll [] (files.take i)).run s = (.ok staged, s₁) ∧
    (volume.stage file).run s₁ = (.error fault, s₂)

/-- Moving stops at the file at this position: all are staged, those before it are moved, and it
cannot be. -/
def MovingStops (volume : Volume (StateM σ) Handle) (files : List TextFile) (s : σ) (i : Nat)
    (fault : FileFault) : Prop :=
  ∃ file staged handle paths s₁ s₂ s₃, files[i]? = some file ∧
    (volume.stageAll [] files).run s = (.ok staged, s₁) ∧
    staged[i]? = some ⟨handle, file.path⟩ ∧
    (volume.commitAll [] (staged.take i)).run s₁ = (.ok paths, s₂) ∧
    (volume.commit ⟨handle, file.path⟩).run s₂ = (.error fault, s₃)

/-- Staging fails if and only if it stops at one of the files. -/
theorem stageAll_eq_error_iff {volume : Volume (StateM σ) Handle} {files : List TextFile} {s : σ}
    {fault : FileFault} : ((volume.stageAll [] files).run s).1 = .error fault ↔
      ∃ i, StagingStops volume files s i fault := by
  have stops := stopsAtFault_stageAll volume
  constructor
  · intro fails
    obtain ⟨i, file, staged, s₁, s₂, among, earlier, stopped, -⟩ :=
      stops.eq_error_iff.1 (Prod.ext fails rfl)
    exact ⟨i, file, staged, s₁, s₂, among, earlier, stopped⟩
  · rintro ⟨i, file, staged, s₁, s₂, among, earlier, stopped⟩
    exact congrArg Prod.fst
      (stops.eq_error_iff.2 ⟨i, file, staged, s₁, s₂, among, earlier, stopped, rfl⟩)

theorem writeAll_eq_iff {volume : Volume (StateM σ) Handle} {files : List TextFile} {s s' : σ}
    {result : Except FileFault (List String)} : (volume.writeAll files).run s = (result, s') ↔
      (∃ staged s₁, (volume.stageAll [] files).run s = (.ok staged, s₁) ∧
        (volume.commitAll [] staged).run s₁ = (result, s')) ∨
      ∃ fault, (volume.stageAll [] files).run s = (.error fault, s') ∧ result = .error fault := by
  rw [Volume.writeAll, run_bind_eq_iff]
  constructor
  · rintro ⟨outcome, s₁, staging, rest⟩
    cases outcome with
    | ok staged => exact .inl ⟨staged, s₁, staging, rest⟩
    | error fault =>
      obtain ⟨rfl, rfl⟩ := run_pure_eq_iff.1 rest
      exact .inr ⟨fault, staging, rfl⟩
  · rintro (⟨staged, s₁, staging, rest⟩ | ⟨fault, staging, rfl⟩)
    · exact ⟨.ok staged, s₁, staging, rest⟩
    · exact ⟨.error fault, s', staging, run_pure_eq_iff.2 ⟨rfl, rfl⟩⟩

/-! ## What is written -/

/-- The files are put at their places one after the other. -/
def Contents.putFiles [DecidableEq Site] (place : String → Site) (seen : Contents Site Handle)
    (files : List TextFile) : Contents Site Handle :=
  files.foldl (fun seen file => seen.putFile (place file.path) file.content.toUTF8) seen

/-- These files have replaced what was at their places, the last one where several have a place in
common; what is at other places has stayed. -/
structure Replaced (place : String → Site) (files : List TextFile)
    (before after : Site → Option ByteArray) : Prop where
  last : ∀ {earlier later : List TextFile} {file : TextFile}, files = earlier ++ file :: later →
    (∀ other ∈ later, place other.path ≠ place file.path) →
    after (place file.path) = some file.content.toUTF8
  others : ∀ {other : Site}, (∀ file ∈ files, place file.path ≠ other) → after other = before other

namespace Contents

variable [DecidableEq Site] {place : String → Site}

theorem temporary?_putFiles (seen : Contents Site Handle) (files : List TextFile) :
    (seen.putFiles place files).temporary? = seen.temporary? := by
  induction files generalizing seen with
  | nil => rfl
  | cons file rest ih => exact ih (seen.putFile (place file.path) file.content.toUTF8)

/-- What is at a place that none of the files has stays there. -/
theorem file?_putFiles_of_forall_ne (seen : Contents Site Handle) {files : List TextFile}
    {other : Site} (apart : ∀ file ∈ files, place file.path ≠ other) :
    (seen.putFiles place files).file? other = seen.file? other := by
  induction files generalizing seen with
  | nil => rfl
  | cons file rest ih =>
    have later := ih (seen.putFile (place file.path) file.content.toUTF8)
      fun file mem => apart file (List.mem_cons_of_mem _ mem)
    have first := apart file List.mem_cons_self
    exact later.trans (Function.update_of_ne (Ne.symm first) _ _)

theorem replaced_putFiles (seen : Contents Site Handle) (files : List TextFile) :
    Replaced place files seen.file? (seen.putFiles place files).file? := by
  constructor
  · rintro earlier later file rfl apart
    rw [putFiles, List.foldl_append, List.foldl_cons]
    have stays := file?_putFiles_of_forall_ne
      ((seen.putFiles place earlier).putFile (place file.path) file.content.toUTF8) apart
    exact stays.trans (Function.update_self _ _ _)
  · exact seen.file?_putFiles_of_forall_ne

end Contents

/-! ## Runs on volumes that keep their word -/

/-- A list from a position on starts with what is there. -/
theorem drop_eq_cons {α : Type} {items : List α} {i : Nat} {item : α}
    (among : items[i]? = some item) : items.drop i = item :: items.drop (i + 1) := by
  obtain ⟨within, rfl⟩ := List.getElem?_eq_some_iff.1 among
  exact List.drop_eq_getElem_cons within

section Runs

variable [DecidableEq Site] [DecidableEq Handle] {view : View σ Site Handle}
  {volume : Volume (StateM σ) Handle} {start : Contents Site Handle} {files : List TextFile}
  {staged : List (Staged Handle)} {s s' : σ}

/-- Without the staged files everything is as it was at the start. -/
theorem View.Lawful.discardAll (lawful : view.Lawful volume) (valid : view.Valid s)
    (holds : Holds start files staged (view.contents s))
    (run : (volume.discardAll staged).run s = ((), s')) :
    view.Valid s' ∧ view.contents s' = start := by
  induction staged generalizing start files s with
  | nil =>
    obtain ⟨-, rfl⟩ := run_pure_eq_iff.1 run
    cases holds
    exact ⟨valid, rfl⟩
  | cons first rest ih =>
    obtain ⟨⟨⟩, s₁, discarding, later⟩ := run_bind_eq_iff.1 run
    cases holds with
    | @cons _ _ file others handle _ fresh more =>
      obtain ⟨held, left⟩ := Holds.drop_first (.cons fresh more)
      have live : (view.contents s).temporary? handle ≠ none := by
        rw [held]
        exact Option.some_ne_none _
      obtain ⟨valid₁, gone⟩ := lawful.discard valid live discarding
      exact ih valid₁ (gone ▸ left) later

/-- Either all files are staged, or one cannot be and everything is as it was at the start. -/
theorem View.Lawful.stageAll (lawful : view.Lawful volume) (valid : view.Valid s)
    {done : List TextFile} {before : List (Staged Handle)}
    (holds : Holds start done before (view.contents s))
    {result : Except FileFault (List (Staged Handle))} :
    (volume.stageAll before files).run s = (result, s') → view.Valid s' ∧ match result with
      | .ok staged => Holds start (done ++ files) staged (view.contents s')
      | .error _ => view.contents s' = start := by
  intro run
  have stops := stopsAtFault_stageAll volume
  -- What is staged so far grows at its end, file by file, against the same start.
  induction files generalizing done before s with
  | nil =>
    obtain ⟨rfl, rfl⟩ := stops.nil_eq_ok_iff.1 run
    rw [List.append_nil]
    exact ⟨valid, holds⟩
  | cons file rest ih =>
    obtain ⟨staged, s₁, staging, run⟩ | ⟨fault, s₁, staging, discarding, rfl⟩ :=
      stops.cons_eq_iff.1 run
    · obtain ⟨valid₁, target, fresh, written⟩ := lawful.stage valid staging
      have longer : Holds start (done ++ [file]) _ _ := holds.snoc fresh
      rw [← written, ← target] at longer
      have later := ih valid₁ longer run
      rwa [List.append_assoc, List.singleton_append] at later
    · obtain ⟨valid₁, same⟩ := lawful.stage valid staging
      exact lawful.discardAll valid₁ (same ▸ holds) discarding

/-- The files that are moved are at their places, and the others are still staged. -/
theorem View.Lawful.commitAll (lawful : view.Lawful volume) (valid : view.Valid s)
    (holds : Holds start files staged (view.contents s)) {before paths : List String} {i : Nat}
    (run : (volume.commitAll before (staged.take i)).run s = (.ok paths, s')) :
    view.Valid s' ∧ paths = before ++ (files.take i).map TextFile.path ∧
      Holds (start.putFiles view.place (files.take i)) (files.drop i) (staged.drop i)
        (view.contents s') := by
  have stops := stopsAtFault_commitAll volume
  -- A file that is moved counts as there from the start, and the others are staged as they were.
  induction i generalizing start files staged before s with
  | zero =>
    obtain ⟨same, rfl⟩ := stops.nil_eq_ok_iff.1 run
    cases same
    exact ⟨valid, (List.append_nil _).symm, holds⟩
  | succ i ih =>
    cases holds with
    | nil =>
      obtain ⟨same, rfl⟩ := stops.nil_eq_ok_iff.1 run
      cases same
      exact ⟨valid, (List.append_nil _).symm, .nil⟩
    | @cons _ _ file rest handle others fresh more =>
      obtain ⟨path, s₁, moving, run⟩ := stops.cons_eq_ok_iff.1 run
      obtain ⟨held, left⟩ := Holds.drop_first (.cons fresh more)
      obtain ⟨valid₁, rfl, moved⟩ := lawful.commit valid held moving
      have placed := left.putFile (view.place file.path) file.content.toUTF8
      rw [← moved] at placed
      obtain ⟨valid', paths', others'⟩ := ih valid₁ placed run
      refine ⟨valid', ?_, others'⟩
      rw [paths', List.append_assoc]
      rfl

/-- A run that comes to its end has written all files in order. -/
theorem View.Lawful.writeAll_ok (lawful : view.Lawful volume) (valid : view.Valid s)
    {paths : List String} (run : (volume.writeAll files).run s = (.ok paths, s')) :
    view.Valid s' ∧ paths = files.map TextFile.path ∧
      view.contents s' = (view.contents s).putFiles view.place files := by
  obtain ⟨staged, s₁, staging, moving⟩ | ⟨fault, -, same⟩ := writeAll_eq_iff.1 run
  · obtain ⟨valid₁, holds⟩ := lawful.stageAll valid .nil staging
    rw [← List.take_length (l := staged)] at moving
    obtain ⟨valid', rfl, left⟩ := lawful.commitAll valid₁ holds moving
    rw [List.drop_length, holds.length_eq, List.nil_append, List.take_length,
      List.drop_length] at left
    rw [holds.length_eq, List.nil_append, List.take_length, List.nil_append]
    exact ⟨valid', rfl, left.eq_start⟩
  · cases same

/-- Where staging stops, everything is as it was. -/
theorem View.Lawful.writeAll_stagingStops (lawful : view.Lawful volume) (valid : view.Valid s)
    {i : Nat} {fault : FileFault} (stops : StagingStops volume files s i fault) :
    ∃ s', (volume.writeAll files).run s = (.error fault, s') ∧ view.Valid s' ∧
      view.contents s' = view.contents s := by
  have staging : (volume.stageAll [] files).run s =
      (.error fault, ((volume.stageAll [] files).run s).2) :=
    Prod.ext (stageAll_eq_error_iff.2 ⟨i, stops⟩) rfl
  obtain ⟨valid', same⟩ := lawful.stageAll valid .nil staging
  exact ⟨_, writeAll_eq_iff.2 (.inr ⟨fault, staging, rfl⟩), valid', same⟩

/-- Where moving stops, the files before are written, and no other. -/
theorem View.Lawful.writeAll_movingStops (lawful : view.Lawful volume) (valid : view.Valid s)
    {i : Nat} {fault : FileFault} (stops : MovingStops volume files s i fault) :
    ∃ s', (volume.writeAll files).run s = (.error fault, s') ∧ view.Valid s' ∧
      view.contents s' = (view.contents s).putFiles view.place (files.take i) := by
  obtain ⟨file, staged, handle, paths, s₁, s₂, s₃, among, staging, among', earlier, fails⟩ := stops
  have moving : (volume.commitAll [] staged).run s₁ =
      (.error fault, ((volume.discardAll (staged.drop (i + 1))).run s₃).2) :=
    (stopsAtFault_commitAll volume).eq_error_iff.2
      ⟨i, ⟨handle, file.path⟩, paths, s₂, s₃, among', earlier, fails, rfl⟩
  obtain ⟨valid₁, holds⟩ := lawful.stageAll valid .nil staging
  obtain ⟨valid₂, -, left⟩ := lawful.commitAll valid₁ holds earlier
  rw [List.nil_append, drop_eq_cons among, drop_eq_cons among'] at left
  obtain ⟨held, others⟩ := left.drop_first
  obtain ⟨valid₃, gone⟩ := lawful.commit valid₂ held fails
  obtain ⟨valid', same⟩ := lawful.discardAll valid₃ (gone ▸ others) rfl
  exact ⟨_, writeAll_eq_iff.2 (.inl ⟨staged, s₁, staging, moving⟩), valid', same⟩

/-- A run that fails has stopped at one of the files. -/
theorem View.Lawful.exists_stops (lawful : view.Lawful volume) (valid : view.Valid s)
    {fault : FileFault} (run : (volume.writeAll files).run s = (.error fault, s')) :
    ∃ i, StagingStops volume files s i fault ∨ MovingStops volume files s i fault := by
  obtain ⟨staged, s₁, staging, moving⟩ | ⟨fault, staging, same⟩ := writeAll_eq_iff.1 run
  · obtain ⟨i, one, paths, s₂, s₃, among, earlier, fails, -⟩ :=
      (stopsAtFault_commitAll volume).eq_error_iff.1 moving
    obtain ⟨-, holds⟩ := lawful.stageAll valid .nil staging
    obtain ⟨file, among', same⟩ := holds.exists_getElem?_eq among
    rw [same] at among fails
    exact ⟨i, .inr ⟨file, staged, _, paths, s₁, s₂, s₃, among', staging, among, earlier, fails⟩⟩
  · cases same
    obtain ⟨i, stops⟩ := stageAll_eq_error_iff.1 (congrArg Prod.fst staging)
    exact ⟨i, .inl stops⟩

theorem View.Lawful.writeAll_valid (lawful : view.Lawful volume) (valid : view.Valid s)
    {result : Except FileFault (List String)} (run : (volume.writeAll files).run s = (result, s')) :
    view.Valid s' := by
  cases result with
  | ok paths => exact (lawful.writeAll_ok valid run).1
  | error fault =>
    obtain ⟨i, staging | moving⟩ := lawful.exists_stops valid run
    · obtain ⟨s₁, run₁, valid₁, -⟩ := lawful.writeAll_stagingStops valid staging
      cases run.symm.trans run₁
      exact valid₁
    · obtain ⟨s₁, run₁, valid₁, -⟩ := lawful.writeAll_movingStops valid moving
      cases run.symm.trans run₁
      exact valid₁

/-! ## Main result -/

/-- The files of a registry under an output directory. -/
def Registry.filesUnder (registry : Registry) (base : String) : List TextFile :=
  registry.entries.map fun entry => entry.under base

/-- Writing a registry either comes to its end or stops at one of the files, while they are staged
or while they are moved. At its end it has the paths of all files in order, and the files have
replaced what was at their places. Where staging stops, everything is as it was. Where moving stops,
the files before have replaced what was at their places, and no others. -/
theorem Registry.writeAll_all_or_nothing (lawful : view.Lawful volume) (valid : view.Valid s)
    (registry : Registry) (base : String) :
    ∃ result s', (registry.writeAll volume base).run s = (result, s') ∧ view.Valid s' ∧
      (∀ paths, result = .ok paths →
        paths = registry.entries.map (fun entry => entry.fullPath base) ∧
        Replaced view.place (registry.filesUnder base) (view.contents s).file?
          (view.contents s').file? ∧
        (view.contents s').temporary? = (view.contents s).temporary?) ∧
      (∀ i fault, StagingStops volume (registry.filesUnder base) s i fault →
        result = .error fault ∧
        (view.contents s').file? = (view.contents s).file? ∧
        (view.contents s').temporary? = (view.contents s).temporary?) ∧
      (∀ i fault, MovingStops volume (registry.filesUnder base) s i fault →
        result = .error fault ∧
        Replaced view.place ((registry.filesUnder base).take i) (view.contents s).file?
          (view.contents s').file? ∧
        ∀ handle content, (view.contents s).temporary? handle = some content →
          (view.contents s').temporary? handle = some content) ∧
      ((∃ paths, result = .ok paths) ∨ ∃ i fault,
        StagingStops volume (registry.filesUnder base) s i fault ∨
          MovingStops volume (registry.filesUnder base) s i fault) := by
  obtain ⟨result, s', run⟩ : ∃ result s',
      (volume.writeAll (registry.filesUnder base)).run s = (result, s') := ⟨_, _, rfl⟩
  refine ⟨result, s', run, lawful.writeAll_valid valid run, ?written, ?staging, ?moving, ?stops⟩
  case written =>
    rintro paths rfl
    obtain ⟨-, inOrder, written⟩ := lawful.writeAll_ok valid run
    rw [written, Contents.temporary?_putFiles]
    refine ⟨?_, Contents.replaced_putFiles _ _, rfl⟩
    rw [inOrder, filesUnder, List.map_map]
    rfl
  case staging =>
    intro i fault staging
    obtain ⟨s₁, run₁, -, same⟩ := lawful.writeAll_stagingStops valid staging
    cases run.symm.trans run₁
    rw [same]
    exact ⟨rfl, rfl, rfl⟩
  case moving =>
    intro i fault moving
    obtain ⟨s₁, run₁, -, written⟩ := lawful.writeAll_movingStops valid moving
    cases run.symm.trans run₁
    rw [written, Contents.temporary?_putFiles]
    exact ⟨rfl, Contents.replaced_putFiles _ _, fun _ _ there => there⟩
  case stops =>
    cases result with
    | ok paths => exact .inl ⟨paths, rfl⟩
    | error fault =>
      obtain ⟨i, stops⟩ := lawful.exists_stops valid run
      exact .inr ⟨i, fault, stops⟩

end Runs

/-- Two files of one path. -/
def repeated : Registry :=
  ⟨[⟨"org/Ledger.java", "first"⟩, ⟨"org/Ledger.java", "second"⟩]⟩

/-- A file stands where another path needs a directory, which is noticed when it is moved. -/
def blocked : Registry :=
  ⟨[⟨"Note.java", "note"⟩, ⟨"Ledger.java", "ledger"⟩, ⟨"Ledger.java/Entry.java", "entry"⟩]⟩

/-- The directory of a file has no possible name. -/
def misnamed : Registry :=
  ⟨[⟨"Note.java", "note"⟩, ⟨"\x00/Entry.java", "entry"⟩]⟩

theorem writeAll_all_or_nothing_trees :
    Tree.view.Lawful treeVolume ∧ Tree.view.Valid Tree.empty ∧
    (∃ s', (repeated.writeAll treeVolume "out").run Tree.empty =
        (.ok ["out/org/Ledger.java", "out/org/Ledger.java"], s') ∧
      (Tree.view.contents s').file? (Tree.placeOf "out/org/Ledger.java") =
        some "second".toUTF8) ∧
    (∃ s' i fault, MovingStops treeVolume (blocked.filesUnder "out") Tree.empty i fault ∧
      (blocked.writeAll treeVolume "out").run Tree.empty = (.error fault, s') ∧
      Replaced Tree.placeOf ((blocked.filesUnder "out").take i)
        (Tree.view.contents Tree.empty).file? (Tree.view.contents s').file?) ∧
    ∃ s' i fault, StagingStops treeVolume (misnamed.filesUnder "out") Tree.empty i fault ∧
      (misnamed.writeAll treeVolume "out").run Tree.empty = (.error fault, s') ∧
      (Tree.view.contents s').file? = (Tree.view.contents Tree.empty).file? := by
  have lawful := Tree.lawful_view
  have valid := Tree.valid_empty
  refine ⟨lawful, valid, ?repeated, ?blocked, ?misnamed⟩
  case repeated =>
    obtain ⟨result, s', run, -, written, -⟩ :=
      repeated.writeAll_all_or_nothing lawful valid "out"
    have done : ((repeated.writeAll treeVolume "out").run Tree.empty).1 =
        .ok ["out/org/Ledger.java", "out/org/Ledger.java"] := by decide +kernel
    rw [run] at done
    cases done
    obtain ⟨-, replaced, -⟩ := written _ rfl
    have parts : repeated.filesUnder "out" =
        [⟨"out/org/Ledger.java", "first"⟩] ++ ⟨"out/org/Ledger.java", "second"⟩ :: [] := rfl
    exact ⟨s', run, replaced.last parts fun _ mem => absurd mem List.not_mem_nil⟩
  case blocked =>
    obtain ⟨result, s', run, -, -, -, moving, ⟨paths, rfl⟩ | ⟨i, fault, staging | stops⟩⟩ :=
      blocked.writeAll_all_or_nothing lawful valid "out"
    · have fails : ((blocked.writeAll treeVolume "out").run Tree.empty).1.isOk = false := by
        decide +kernel
      rw [run] at fails
      cases fails
    -- Staging does not stop: nothing is in the way of the directory before files are moved.
    · have staged : ((treeVolume.stageAll [] (blocked.filesUnder "out")).run Tree.empty).1.isOk =
          true := by decide +kernel
      rw [stageAll_eq_error_iff.2 ⟨i, staging⟩] at staged
      cases staged
    · obtain ⟨rfl, replaced, -⟩ := moving i fault stops
      exact ⟨s', i, fault, stops, run, replaced⟩
  case misnamed =>
    obtain ⟨result, s', run, -, -, staging, -⟩ :=
      misnamed.writeAll_all_or_nothing lawful valid "out"
    have fails : ((treeVolume.stageAll [] (misnamed.filesUnder "out")).run Tree.empty).1.isOk =
        false := by decide +kernel
    cases outcome : ((treeVolume.stageAll [] (misnamed.filesUnder "out")).run Tree.empty).1 with
    | ok staged =>
      rw [outcome] at fails
      cases fails
    | error fault =>
      obtain ⟨i, stops⟩ := stageAll_eq_error_iff.1 outcome
      obtain ⟨rfl, same, -⟩ := staging i fault stops
      exact ⟨s', i, fault, stops, run, same⟩

end EntityGen.Files
