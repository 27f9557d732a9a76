/-
  Proofs/Enrolment.lean --- models and programs that grow.

  Source: the specification, section 3 (`add_business_object` rejects a duplicate; the order
  of insertion is preserved).

  Models and programs are rosters that grow by calls which may fail. After any calls, failed
  ones among them, a roster holds the first item that was offered under each name: a call
  fails exactly if its name was offered before, and then leaves the roster as it was.

  One step of growing is described once for both, and the run follows by induction from
  the end of the calls.
-/
import EntityGen.Blueprint.Program
import EntityGen.Model.Read
import EntityGen.Proofs.FirstOccurrences

set_option autoImplicit false

namespace EntityGen.Roster

variable {α ε : Type} {name : α → String}

/-! ## Calls -/

/-- The roster after a call; a call that fails leaves the one before it. -/
def afterCall (add : Roster name → α → Except ε (Roster name)) (roster : Roster name) (item : α) :
    Roster name :=
  match add roster item with
  | .ok enrolled => enrolled
  | .error _ => roster

/-- The roster after calls on an empty one. -/
def afterCalls (add : Roster name → α → Except ε (Roster name)) (calls : List α) : Roster name :=
  calls.foldl (afterCall add) empty

/-- The items whose calls succeed, in the order of the calls. -/
def succeeding (add : Roster name → α → Except ε (Roster name)) : Roster name → List α → List α
  | _, [] => []
  | roster, item :: rest =>
    let others := succeeding add (afterCall add roster item) rest
    if (add roster item).isOk then item :: others else others

/-- Whatever is added, the first item of each name is kept and no other. -/
structure KeepsFirsts (add : Roster name → α → Except ε (Roster name)) (taken : String → ε) :
    Prop where
  /-- A call fails exactly if an earlier one had its name, whether that one failed or not. -/
  fails_iff : ∀ earlier item,
    add (afterCalls add earlier) item = .error (taken (name item)) ↔
      name item ∈ earlier.map name
  succeeds_iff : ∀ earlier item,
    (∃ enrolled, add (afterCalls add earlier) item = .ok enrolled) ↔
      name item ∉ earlier.map name
  /-- A call that fails changes nothing, and any other one something. -/
  unchanged_iff : ∀ earlier item,
    afterCalls add (earlier ++ [item]) = afterCalls add earlier ↔
      name item ∈ earlier.map name
  items_eq : ∀ calls, (afterCalls add calls).items = succeeding add empty calls
  names_nodup : ∀ calls, (afterCalls add calls).names.Nodup
  /-- Names stand in the order of their first calls. -/
  names_eq : ∀ calls, (afterCalls add calls).names = (calls.map name).eraseDups
  /-- A name stands for the item of its first call, and for none without a call. -/
  get?_eq : ∀ calls wanted,
    (afterCalls add calls).get? wanted = calls.find? fun item => name item == wanted

/-! ## Enrolment -/

/-- The calls enrol their items, and say which name is taken if they fail. -/
def Enrolls (add : Roster name → α → Except ε (Roster name)) (taken : String → ε) : Prop :=
  ∀ roster item, add roster item =
    match roster.enroll? item with
    | some enrolled => .ok enrolled
    | none => .error (taken (name item))

theorem afterCalls_concat (add : Roster name → α → Except ε (Roster name)) (earlier : List α)
    (item : α) :
    afterCalls add (earlier ++ [item]) = afterCall add (afterCalls add earlier) item :=
  List.foldl_concat _ _ _ _

section

variable {add : Roster name → α → Except ε (Roster name)} {taken : String → ε}
  (enrolls : Enrolls add taken)

include enrolls

/-- All that a call can do. -/
theorem Enrolls.call_cases (roster : Roster name) (item : α) :
    (name item ∈ roster.names ∧ add roster item = .error (taken (name item)) ∧
      afterCall add roster item = roster) ∨
    ∃ enrolled, name item ∉ roster.names ∧ add roster item = .ok enrolled ∧
      afterCall add roster item = enrolled ∧ enrolled.items = roster.items ++ [item] := by
  have step := enrolls roster item
  cases outcome : roster.enroll? item with
  | none =>
    rw [outcome] at step
    exact Or.inl ⟨enroll?_eq_none_iff.1 outcome, step, by rw [afterCall, step]⟩
  | some enrolled =>
    rw [outcome] at step
    obtain ⟨fresh, items⟩ := enroll?_eq_some_iff.1 outcome
    exact Or.inr ⟨enrolled, fresh, step, by rw [afterCall, step], items⟩

/-- Names stand in the order in which they were first called. -/
theorem Enrolls.names_afterCalls (calls : List α) :
    (afterCalls add calls).names = (calls.map name).eraseDups := by
  induction calls using List.reverseRecOn with
  | nil => rfl
  | append_singleton rest item ih =>
    rw [afterCalls_concat, List.map_append, List.map_singleton, eraseDups_concat]
    obtain ⟨met, -, same⟩ | ⟨enrolled, fresh, -, next, items⟩ :=
      enrolls.call_cases (afterCalls add rest) item
    · rw [ih, List.mem_eraseDups] at met
      rw [if_pos met, same, ih]
    · rw [ih, List.mem_eraseDups] at fresh
      rw [if_neg fresh, next, names, items, List.map_append, List.map_singleton, ← ih, names]

theorem Enrolls.mem_names_afterCalls {calls : List α} {wanted : String} :
    wanted ∈ (afterCalls add calls).names ↔ wanted ∈ calls.map name := by
  rw [enrolls.names_afterCalls, List.mem_eraseDups]

/-- The items behind those of the start are those whose calls succeed. -/
theorem Enrolls.items_foldl (roster : Roster name) (calls : List α) :
    (calls.foldl (afterCall add) roster).items = roster.items ++ succeeding add roster calls := by
  induction calls generalizing roster with
  | nil => exact (List.append_nil _).symm
  | cons item rest ih =>
    rw [List.foldl_cons, ih, succeeding]
    obtain ⟨-, failed, same⟩ | ⟨enrolled, -, added, next, items⟩ := enrolls.call_cases roster item
    · rw [same, failed]
      rfl
    · rw [next, added, items, List.append_assoc]
      rfl

/-- A name stands for the item of its first call. -/
theorem Enrolls.get?_afterCalls (calls : List α) (wanted : String) :
    (afterCalls add calls).get? wanted = calls.find? fun item => name item == wanted := by
  induction calls using List.reverseRecOn with
  | nil => rfl
  | append_singleton rest item ih =>
    rw [afterCalls_concat, List.find?_append]
    obtain ⟨met, -, same⟩ | ⟨enrolled, -, -, next, items⟩ :=
      enrolls.call_cases (afterCalls add rest) item
    · rw [same, ih]
      by_cases hit : name item = wanted
      · -- The name was called before, so that the later item is not reached.
        rw [enrolls.mem_names_afterCalls, List.mem_map] at met
        obtain ⟨first, mem, equal⟩ := met
        have found : (rest.find? fun item => name item == wanted).isSome = true :=
          List.find?_isSome.2 ⟨first, mem, beq_iff_eq.2 (equal.trans hit)⟩
        rw [Option.or_of_isSome found]
      · rw [List.find?_singleton, if_neg (by simpa using hit), Option.or_none]
    · rw [next, get?, items, List.find?_append, ← get?, ih]

theorem Enrolls.keepsFirsts : KeepsFirsts add taken where
  fails_iff earlier item := by
    rw [← enrolls.mem_names_afterCalls]
    obtain ⟨met, failed, -⟩ | ⟨enrolled, fresh, added, -⟩ :=
      enrolls.call_cases (afterCalls add earlier) item
    · exact iff_of_true failed met
    · exact iff_of_false (by simp [added]) fresh
  succeeds_iff earlier item := by
    rw [← enrolls.mem_names_afterCalls]
    obtain ⟨met, failed, -⟩ | ⟨enrolled, fresh, added, -⟩ :=
      enrolls.call_cases (afterCalls add earlier) item
    · exact iff_of_false (by simp [failed]) (not_not_intro met)
    · exact iff_of_true ⟨enrolled, added⟩ fresh
  unchanged_iff earlier item := by
    rw [← enrolls.mem_names_afterCalls, afterCalls_concat]
    obtain ⟨met, -, same⟩ | ⟨enrolled, fresh, -, next, items⟩ :=
      enrolls.call_cases (afterCalls add earlier) item
    · exact iff_of_true same met
    · refine iff_of_false (fun same => ?_) fresh
      rw [← next, same] at items
      simp at items
  items_eq calls := enrolls.items_foldl empty calls
  names_nodup calls := (afterCalls add calls).distinct
  names_eq := enrolls.names_afterCalls
  get?_eq := enrolls.get?_afterCalls

end

/-! ## Main result -/

/-- Models keep the first business object of each name, and programs the first class of each name,
whatever is added to them: a call fails exactly if an earlier one had its name, and changes nothing
then; the items are those of the calls that succeed, in the order of the calls and with distinct names,
and a name stands for the item of its first call. -/
theorem first_of_each_name_kept :
    KeepsFirsts Model.DataModel.add Model.ModelFault.duplicateObject ∧
      KeepsFirsts Blueprint.Program.add Blueprint.ClassFault.duplicateClass := by
  have models : Enrolls Model.DataModel.add Model.ModelFault.duplicateObject := by
    intro model object
    rw [Model.DataModel.add]
    cases model.enroll? object with
    | none => rfl
    | some enrolled => rfl
  have programs : Enrolls Blueprint.Program.add Blueprint.ClassFault.duplicateClass := by
    intro program spec
    rw [Blueprint.Program.add]
    cases program.enroll? spec with
    | none => rfl
    | some enrolled => rfl
  exact ⟨models.keepsFirsts, programs.keepsFirsts⟩

end EntityGen.Roster
