/-
  Proofs/Attempts.lean --- steps that may fail.

  Source: no part of the specification. The model is written with checks that stop at the
  first fault, and these lemmas take such walks apart.

  When a chain of steps or a walk over a list ends well, for steps that end well or with a
  fault. A walk ends well exactly if each of its steps does, and its results are those of
  the steps.

  They are stated for `Except` with any type of errors, and used wherever a definition is a
  `do` block, a `mapM` or a `forM`.
-/
import Mathlib.Data.List.Forall2

set_option autoImplicit false

namespace EntityGen

variable {ε α β : Type}

/-- A chain ends well if both of its parts do. -/
theorem bind_eq_ok_iff {first : Except ε α} {next : α → Except ε β} {result : β} :
    first >>= next = .ok result ↔ ∃ value, first = .ok value ∧ next value = .ok result := by
  cases first with
  | error fault => simp [bind, Except.bind]
  | ok value => simp [bind, Except.bind]

/-- A chain fails with its first part, or with its second where the first ends well. -/
theorem bind_eq_error_iff {first : Except ε α} {next : α → Except ε β} {fault : ε} :
    first >>= next = .error fault ↔
      first = .error fault ∨ ∃ value, first = .ok value ∧ next value = .error fault := by
  cases first with
  | error other => simp [bind, Except.bind]
  | ok value => simp [bind, Except.bind]

@[simp] theorem pure_eq_ok_iff {value result : α} :
    (pure value : Except ε α) = .ok result ↔ value = result := by
  simp [pure, Except.pure]

/-- Another wording of the fault does not change whether there is one. -/
@[simp] theorem mapError_eq_ok_iff {ε' : Type} {wording : ε → ε'} {attempt : Except ε α}
    {value : α} : attempt.mapError wording = .ok value ↔ attempt = .ok value := by
  cases attempt with
  | error fault => simp [Except.mapError]
  | ok other => simp [Except.mapError]

/-- A walk that collects results ends well exactly if each step does. -/
theorem mapM_eq_ok_iff_forall₂ {step : α → Except ε β} {items : List α} {results : List β} :
    items.mapM step = .ok results ↔
      List.Forall₂ (fun item result => step item = .ok result) items results := by
  induction items generalizing results with
  | nil => rw [List.mapM_nil, pure_eq_ok_iff, List.forall₂_nil_left_iff, eq_comm]
  | cons item rest ih =>
    simp only [List.mapM_cons, bind_eq_ok_iff, pure_eq_ok_iff, ih, List.forall₂_cons_left_iff]
    constructor
    · rintro ⟨result, here, others, there, rfl⟩
      exact ⟨result, others, here, there, rfl⟩
    · rintro ⟨result, others, here, there, rfl⟩
      exact ⟨result, here, others, there, rfl⟩

/-- Steps that all can be taken make a walk that can be. -/
theorem exists_mapM_eq_ok (step : α → Except ε β) {items : List α}
    (each : ∀ item ∈ items, ∃ result, step item = .ok result) :
    ∃ results, items.mapM step = .ok results := by
  induction items with
  | nil => exact ⟨[], rfl⟩
  | cons item rest ih =>
    obtain ⟨result, here⟩ := each item List.mem_cons_self
    obtain ⟨results, there⟩ := ih fun other mem => each other (List.mem_cons_of_mem item mem)
    refine ⟨result :: results, ?_⟩
    rw [mapM_eq_ok_iff_forall₂] at there ⊢
    exact .cons here there

/-- Where every result shows what its item does, so does the walk. -/
theorem map_eq_map_of_mapM {γ : Type} {step : α → Except ε β} {view : β → γ} {label : α → γ}
    {items : List α} {results : List β} (walked : items.mapM step = .ok results)
    (each : ∀ item result, step item = .ok result → view result = label item) :
    results.map view = items.map label := by
  have pairs := mapM_eq_ok_iff_forall₂.1 walked
  clear walked
  induction pairs with
  | nil => rfl
  | cons here _ ih => rw [List.map_cons, List.map_cons, ih, each _ _ here]

/-- Every result of a walk comes from one of its items. -/
theorem exists_of_mem_mapM {step : α → Except ε β} {items : List α} {results : List β}
    (walked : items.mapM step = .ok results) {result : β} (mem : result ∈ results) :
    ∃ item ∈ items, step item = .ok result := by
  have pairs := mapM_eq_ok_iff_forall₂.1 walked
  clear walked
  induction pairs with
  | nil => exact absurd mem List.not_mem_nil
  | @cons item own items results here _ ih =>
    rcases List.mem_cons.1 mem with rfl | later
    · exact ⟨item, List.mem_cons_self, here⟩
    · obtain ⟨other, listed, there⟩ := ih later
      exact ⟨other, List.mem_cons_of_mem item listed, there⟩

/-- Every item of a walk that ends well has its result among those of the walk. -/
theorem exists_mem_of_mapM {step : α → Except ε β} {items : List α} {results : List β}
    (walked : items.mapM step = .ok results) {item : α} (mem : item ∈ items) :
    ∃ result ∈ results, step item = .ok result := by
  have pairs := mapM_eq_ok_iff_forall₂.1 walked
  clear walked
  induction pairs with
  | nil => exact absurd mem List.not_mem_nil
  | @cons own result items results here _ ih =>
    rcases List.mem_cons.1 mem with rfl | later
    · exact ⟨result, List.mem_cons_self, here⟩
    · obtain ⟨other, listed, there⟩ := ih later
      exact ⟨other, List.mem_cons_of_mem result listed, there⟩

/-- The result at a position of a walk is that of the item there. -/
theorem exists_getElem?_of_mapM {step : α → Except ε β} {items : List α} {results : List β}
    (walked : items.mapM step = .ok results) {i : Nat} {item : α} (here : items[i]? = some item) :
    ∃ result, results[i]? = some result ∧ step item = .ok result := by
  have pairs := mapM_eq_ok_iff_forall₂.1 walked
  clear walked
  induction pairs generalizing i with
  | nil => cases here
  | @cons own result items results made _ ih =>
    cases i with
    | zero =>
      cases here
      exact ⟨result, rfl, made⟩
    | succ i => exact ih here

/-- The results of a walk, item by item. -/
theorem eq_filterMap_of_mapM {step : α → Except ε β} {items : List α} {results : List β}
    (walked : items.mapM step = .ok results) :
    results = items.filterMap fun item => (step item).toOption := by
  have pairs := mapM_eq_ok_iff_forall₂.1 walked
  clear walked
  induction pairs with
  | nil => rfl
  | @cons item result items results here _ ih =>
    rw [List.filterMap_cons, here, ← ih]
    rfl

/-- Walks through the same items in different orders have the same results in different orders. -/
theorem perm_of_mapM {step : α → Except ε β} {items others : List α} {results more : List β}
    (walked : items.mapM step = .ok results) (again : others.mapM step = .ok more)
    (perm : others.Perm items) : more.Perm results := by
  rw [eq_filterMap_of_mapM walked, eq_filterMap_of_mapM again]
  exact perm.filterMap _

/-- Walks through items that are related in pairs have results that are, if each step does. -/
theorem forall₂_of_mapM {step : α → Except ε β} {R : α → α → Prop} {S : β → β → Prop}
    {items others : List α} {results more : List β} (related : List.Forall₂ R items others)
    (each : ∀ item other, R item other → ∀ result theirs, step item = .ok result →
      step other = .ok theirs → S result theirs)
    (walked : items.mapM step = .ok results) (again : others.mapM step = .ok more) :
    List.Forall₂ S results more := by
  rw [mapM_eq_ok_iff_forall₂] at walked again
  induction related generalizing results more with
  | nil =>
    cases walked
    cases again
    exact .nil
  | cons here _ ih =>
    cases walked with
    | cons made walked =>
      cases again with
      | cons made' again => exact .cons (each _ _ here _ _ made made') (ih walked again)

/-- A walk for its faults alone ends well exactly if each step does. -/
theorem forM_eq_ok_iff {step : α → Except ε Unit} {items : List α} :
    forM items step = .ok () ↔ ∀ item ∈ items, step item = .ok () := by
  induction items with
  | nil => simp
  | cons item rest ih =>
    rw [List.forM_cons, bind_eq_ok_iff, List.forall_mem_cons, ← ih]
    exact ⟨fun ⟨_, here, there⟩ => ⟨here, there⟩, fun ⟨here, there⟩ => ⟨(), here, there⟩⟩

/-- It fails as one of its steps does. -/
theorem exists_of_forM_eq_error {step : α → Except ε Unit} {items : List α} {fault : ε}
    (failed : forM items step = .error fault) : ∃ item ∈ items, step item = .error fault := by
  induction items with
  | nil => cases failed
  | cons item rest ih =>
    rw [List.forM_cons, bind_eq_error_iff] at failed
    rcases failed with here | ⟨⟨⟩, -, there⟩
    · exact ⟨item, List.mem_cons_self, here⟩
    · obtain ⟨other, listed, fails⟩ := ih there
      exact ⟨other, List.mem_cons_of_mem item listed, fails⟩

end EntityGen
