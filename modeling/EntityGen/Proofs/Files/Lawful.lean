/-
  Proofs/Files/Lawful.lean --- volumes that keep their word.

  Source: the specification, section 4.5, for what the generator relies on. The laws are
  those of a file system that one program uses alone.

  What may be expected of the operations of a volume: each of them takes effect or leaves
  the files as they are, and a temporary file that is discarded is gone. What is staged and
  committed on such a volume is followed here, file by file, by what can be seen: the files,
  known by the places that paths lead to, and the temporary files.
-/
import EntityGen.Files.Staging
import Mathlib.Logic.Function.Basic

set_option autoImplicit false

namespace EntityGen.Files

/-! ## What can be seen -/

/-- The files at their places, and the temporary files that are there. -/
@[ext] structure Contents (Site Handle : Type) where
  /-- The content of the file at a place. -/
  file? : Site → Option ByteArray
  /-- The content of a temporary file. -/
  temporary? : Handle → Option ByteArray

namespace Contents

variable {Site Handle : Type}

/-- A file is put at a place. -/
def putFile [DecidableEq Site] (seen : Contents Site Handle) (place : Site)
    (content : ByteArray) : Contents Site Handle :=
  { seen with file? := Function.update seen.file? place (some content) }

variable [DecidableEq Handle]

/-- A temporary file gets a content. -/
def putTemporary (seen : Contents Site Handle) (handle : Handle) (content : ByteArray) :
    Contents Site Handle :=
  { seen with temporary? := Function.update seen.temporary? handle (some content) }

/-- A temporary file is gone. -/
def dropTemporary (seen : Contents Site Handle) (handle : Handle) : Contents Site Handle :=
  { seen with temporary? := Function.update seen.temporary? handle none }

variable {seen : Contents Site Handle} {handle other : Handle} {content more : ByteArray}

/-- A new temporary file that is dropped leaves no trace, however often it was written. -/
theorem dropTemporary_putTemporary (fresh : seen.temporary? handle = none) :
    (seen.putTemporary handle content).dropTemporary handle = seen := by
  ext1
  · rfl
  · simp [putTemporary, dropTemporary, ← fresh]

theorem putTemporary_putTemporary :
    (seen.putTemporary handle content).putTemporary handle more =
      seen.putTemporary handle more := by
  simp [putTemporary]

theorem dropTemporary_putTemporary_comm (apart : other ≠ handle) :
    (seen.putTemporary other content).dropTemporary handle =
      (seen.dropTemporary handle).putTemporary other content := by
  simp [putTemporary, dropTemporary, Function.update_comm apart]

end Contents

/-- How the state of a volume is looked at. -/
structure View (σ Site Handle : Type) where
  /-- The place that a path leads to; several paths may lead to one. -/
  place : String → Site
  /-- What there is to be seen in a state. -/
  contents : σ → Contents Site Handle
  /-- The states that the volume is ever in. -/
  Valid : σ → Prop

/-! ## Laws -/

variable {σ Site Handle : Type} [DecidableEq Handle]

/-- Each operation takes effect, or fails and leaves the files as they are. A new temporary file is
unlike those that are there, a failed writing may leave any content in it, and discarding one that
is there removes it. -/
structure View.Lawful [DecidableEq Site] (view : View σ Site Handle)
    (volume : Volume (StateM σ) Handle) : Prop where
  makeDirectories : ∀ {s s' : σ} {path : String} {done : Bool}, view.Valid s →
    (volume.makeDirectories path).run s = (done, s') →
    view.Valid s' ∧ view.contents s' = view.contents s
  createTemporary : ∀ {s s' : σ} {path : String} {made : Option Handle}, view.Valid s →
    (volume.createTemporary path).run s = (made, s') →
    view.Valid s' ∧ match made with
      | some handle => (view.contents s).temporary? handle = none ∧
          view.contents s' = (view.contents s).putTemporary handle .empty
      | none => view.contents s' = view.contents s
  fill : ∀ {s s' : σ} {handle : Handle} {text : String} {done : Bool}, view.Valid s →
    (view.contents s).temporary? handle ≠ none →
    (volume.fill handle text).run s = (done, s') →
    view.Valid s' ∧ ∃ left, view.contents s' = (view.contents s).putTemporary handle left ∧
      (done = true → left = text.toUTF8)
  moveTo : ∀ {s s' : σ} {handle : Handle} {content : ByteArray} {path : String} {done : Bool},
    view.Valid s → (view.contents s).temporary? handle = some content →
    (volume.moveTo handle path).run s = (done, s') →
    view.Valid s' ∧ view.contents s' = if done then
      ((view.contents s).dropTemporary handle).putFile (view.place path) content
    else view.contents s
  discard : ∀ {s s' : σ} {handle : Handle}, view.Valid s →
    (view.contents s).temporary? handle ≠ none →
    (volume.discard handle).run s = ((), s') →
    view.Valid s' ∧ view.contents s' = (view.contents s).dropTemporary handle

/-! ## Steps -/

/-- A chain of two steps ends as its second one does, from where the first one ends. -/
theorem run_bind_eq_iff {α β : Type} {first : StateM σ α} {next : α → StateM σ β} {s s' : σ}
    {result : β} : (first >>= next).run s = (result, s') ↔
      ∃ value between, first.run s = (value, between) ∧
        (next value).run between = (result, s') := by
  constructor
  · intro run
    exact ⟨(first.run s).1, (first.run s).2, rfl, run⟩
  · rintro ⟨value, between, start, run⟩
    rw [StateT.run_bind, start]
    exact run

theorem run_pure_eq_iff {α : Type} {value result : α} {s s' : σ} :
    (pure value : StateM σ α).run s = (result, s') ↔ result = value ∧ s' = s := by
  constructor
  · intro run
    cases run
    exact ⟨rfl, rfl⟩
  · rintro ⟨rfl, rfl⟩
    rfl

section Steps

variable [DecidableEq Site] {view : View σ Site Handle} {volume : Volume (StateM σ) Handle}
  {s s' : σ}

/-- A file that is staged is in full in a new temporary file; one that cannot be staged leaves no
trace. -/
theorem View.Lawful.stage (lawful : view.Lawful volume) (valid : view.Valid s) {file : TextFile}
    {result : Except FileFault (Staged Handle)} :
    (volume.stage file).run s = (result, s') → view.Valid s' ∧ match result with
      | .ok staged => staged.target = file.path ∧
          (view.contents s).temporary? staged.temporary = none ∧
          view.contents s' =
            (view.contents s).putTemporary staged.temporary file.content.toUTF8
      | .error _ => view.contents s' = view.contents s := by
  intro run
  unfold Volume.stage at run
  obtain ⟨made, s₁, making, run⟩ := run_bind_eq_iff.1 run
  obtain ⟨valid₁, same⟩ := lawful.makeDirectories valid making
  cases made with
  | false =>
    obtain ⟨rfl, rfl⟩ := run_pure_eq_iff.1 run
    exact ⟨valid₁, same⟩
  | true =>
    obtain ⟨created, s₂, creating, run⟩ := run_bind_eq_iff.1 run
    obtain ⟨valid₂, created'⟩ := lawful.createTemporary valid₁ creating
    cases created with
    | none =>
      obtain ⟨rfl, rfl⟩ := run_pure_eq_iff.1 run
      exact ⟨valid₂, created'.trans same⟩
    | some handle =>
      obtain ⟨fresh, opened⟩ := created'
      obtain ⟨filled, s₃, filling, run⟩ := run_bind_eq_iff.1 run
      have live : (view.contents s₂).temporary? handle ≠ none := by
        simp [opened, Contents.putTemporary]
      obtain ⟨valid₃, left, written, whole⟩ := lawful.fill valid₂ live filling
      rw [opened, Contents.putTemporary_putTemporary] at written
      cases filled with
      | true =>
        obtain ⟨rfl, rfl⟩ := run_pure_eq_iff.1 run
        rw [whole rfl] at written
        exact ⟨valid₃, rfl, same ▸ fresh, same ▸ written⟩
      | false =>
        obtain ⟨⟨⟩, s₄, discarding, run⟩ := run_bind_eq_iff.1 run
        obtain ⟨rfl, rfl⟩ := run_pure_eq_iff.1 run
        have live' : (view.contents s₃).temporary? handle ≠ none := by
          simp [written, Contents.putTemporary]
        obtain ⟨valid₄, gone⟩ := lawful.discard valid₃ live' discarding
        rw [written, Contents.dropTemporary_putTemporary fresh] at gone
        exact ⟨valid₄, gone.trans same⟩

/-- A file that is committed is at its place; in any case its temporary file is gone. -/
theorem View.Lawful.commit (lawful : view.Lawful volume) (valid : view.Valid s)
    {staged : Staged Handle} {content : ByteArray}
    (held : (view.contents s).temporary? staged.temporary = some content)
    {result : Except FileFault String} :
    (volume.commit staged).run s = (result, s') → view.Valid s' ∧ match result with
      | .ok path => path = staged.target ∧
          view.contents s' = ((view.contents s).dropTemporary staged.temporary).putFile
            (view.place staged.target) content
      | .error _ => view.contents s' = (view.contents s).dropTemporary staged.temporary := by
  intro run
  unfold Volume.commit at run
  obtain ⟨moved, s₁, moving, run⟩ := run_bind_eq_iff.1 run
  obtain ⟨valid₁, seen⟩ := lawful.moveTo valid held moving
  cases moved with
  | true =>
    obtain ⟨rfl, rfl⟩ := run_pure_eq_iff.1 run
    exact ⟨valid₁, rfl, seen⟩
  | false =>
    have seen : view.contents s₁ = view.contents s := seen
    obtain ⟨⟨⟩, s₂, discarding, run⟩ := run_bind_eq_iff.1 run
    obtain ⟨rfl, rfl⟩ := run_pure_eq_iff.1 run
    have live : (view.contents s₁).temporary? staged.temporary ≠ none := by simp [seen, held]
    obtain ⟨valid₂, gone⟩ := lawful.discard valid₁ live discarding
    exact ⟨valid₂, seen ▸ gone⟩

end Steps

/-! ## Staged files -/

/-- These files are staged, each in full in a temporary file of its own, and nothing else has
changed from what was to be seen at the start. -/
inductive Holds : Contents Site Handle → List TextFile → List (Staged Handle) →
    Contents Site Handle → Prop
  | nil {seen : Contents Site Handle} : Holds seen [] [] seen
  | cons {start now : Contents Site Handle} {file : TextFile} {files : List TextFile}
      {handle : Handle} {staged : List (Staged Handle)} :
      start.temporary? handle = none →
      Holds (start.putTemporary handle file.content.toUTF8) files staged now →
      Holds start (file :: files) (⟨handle, file.path⟩ :: staged) now

namespace Holds

variable {start now : Contents Site Handle} {files : List TextFile}
  {staged : List (Staged Handle)} {handle : Handle}

/-- Temporary files that were there are still there. -/
theorem temporary?_eq (holds : Holds start files staged now) {content : ByteArray}
    (there : start.temporary? handle = some content) : now.temporary? handle = some content := by
  induction holds with
  | nil => exact there
  | @cons start now file files other staged fresh _ ih =>
    -- The temporary file of the first staged file is new, so it is another one.
    apply ih
    have apart : handle ≠ other := by
      rintro rfl
      rw [fresh] at there
      cases there
    simp [Contents.putTemporary, apart, there]

theorem eq_start (holds : Holds start [] [] now) : now = start := by
  cases holds
  rfl

theorem length_eq (holds : Holds start files staged now) : staged.length = files.length := by
  induction holds with
  | nil => rfl
  | cons _ _ ih => rw [List.length_cons, List.length_cons, ih]

/-- Each staged file belongs where the file at its position does. -/
theorem exists_getElem?_eq (holds : Holds start files staged now) {i : Nat} {one : Staged Handle}
    (among : staged[i]? = some one) :
    ∃ file, files[i]? = some file ∧ one = ⟨one.temporary, file.path⟩ := by
  induction holds generalizing i with
  | nil =>
    rw [List.getElem?_nil] at among
    cases among
  | @cons _ _ file _ _ _ _ _ ih =>
    cases i with
    | zero =>
      cases among
      exact ⟨file, rfl, rfl⟩
    | succ i => exact ih among

/-- One more file is staged. -/
theorem snoc (holds : Holds start files staged now) {file : TextFile}
    (fresh : now.temporary? handle = none) :
    Holds start (files ++ [file]) (staged ++ [⟨handle, file.path⟩])
      (now.putTemporary handle file.content.toUTF8) := by
  induction holds with
  | nil => exact .cons fresh .nil
  | cons new _ ih => exact .cons new (ih fresh)

/-- A temporary file that was there at the start can go. -/
theorem dropTemporary (holds : Holds start files staged now)
    (there : start.temporary? handle ≠ none) :
    Holds (start.dropTemporary handle) files staged (now.dropTemporary handle) := by
  induction holds with
  | nil => exact .nil
  | @cons start now file files other staged fresh _ ih =>
    have apart : handle ≠ other := by
      rintro rfl
      exact there fresh
    have fresh' : (start.dropTemporary handle).temporary? other = none := by
      simp [Contents.dropTemporary, Ne.symm apart, fresh]
    refine .cons fresh' ?_
    rw [← Contents.dropTemporary_putTemporary_comm (Ne.symm apart)]
    apply ih
    simpa [Contents.putTemporary, apart] using there

/-- The first of the staged files is in its temporary file; without it the others are staged. -/
theorem drop_first {file : TextFile}
    (holds : Holds start (file :: files) (⟨handle, file.path⟩ :: staged) now) :
    now.temporary? handle = some file.content.toUTF8 ∧
      Holds start files staged (now.dropTemporary handle) := by
  cases holds with
  | cons fresh rest =>
    have there : (start.putTemporary handle file.content.toUTF8).temporary? handle =
        some file.content.toUTF8 := by simp [Contents.putTemporary]
    have live : (start.putTemporary handle file.content.toUTF8).temporary? handle ≠ none := by
      rw [there]
      exact Option.some_ne_none _
    have dropped := rest.dropTemporary live
    rw [Contents.dropTemporary_putTemporary fresh] at dropped
    exact ⟨rest.temporary?_eq there, dropped⟩

/-- A file can be put anywhere. -/
theorem putFile [DecidableEq Site] (holds : Holds start files staged now) (place : Site)
    (content : ByteArray) :
    Holds (start.putFile place content) files staged (now.putFile place content) := by
  induction holds with
  | nil => exact .nil
  | cons fresh _ ih => exact .cons fresh ih

end Holds

end EntityGen.Files
