/-
  Roster.lean --- items under pairwise distinct names.

  Source: the specification, section 3: business objects are unique by qualified name and
  keep the order of insertion, and so do the classes of a program.

  Items in the order in which they were enrolled, no two of them under one name. Enrolling a
  second item under a name fails and changes nothing, so a name stands for the first item
  enrolled under it.

  A roster carries the proof that its names are distinct, so that no later function has to
  look for repetitions and none can build a roster that has them.
-/

set_option autoImplicit false

namespace EntityGen

/-- Items in order of enrolment, with pairwise distinct names. -/
structure Roster {α : Type} (name : α → String) where
  /-- The items, first enrolled first. -/
  items : List α
  /-- No two items share a name. -/
  distinct : (items.map name).Nodup

namespace Roster

variable {α : Type} {name : α → String}

/-- The roster without items. -/
def empty : Roster name :=
  ⟨[], List.nodup_nil⟩

instance : Inhabited (Roster name) := ⟨empty⟩

/-- The item of this name. -/
def get? (roster : Roster name) (wanted : String) : Option α :=
  roster.items.find? fun item => name item == wanted

/-- The names, in order of enrolment. -/
def names (roster : Roster name) : List String :=
  roster.items.map name

/-- The number of items. -/
def size (roster : Roster name) : Nat :=
  roster.items.length

/-- The roster holds no item. -/
def isEmpty (roster : Roster name) : Bool :=
  roster.items.isEmpty

/-- The roster with one more item; none if its name is taken. -/
def enroll? (roster : Roster name) (item : α) : Option (Roster name) :=
  if taken : name item ∈ roster.items.map name then none
  else some
    { items := roster.items ++ [item]
      distinct := by
        rw [List.map_append, List.nodup_append]
        refine ⟨roster.distinct, by simp, fun a old b new => ?_⟩
        rintro rfl
        simp only [List.map_cons, List.map_nil, List.mem_singleton] at new
        exact taken (new ▸ old) }

@[simp] theorem items_empty : (empty : Roster name).items = [] := rfl

/-- Enrolling fails exactly if the name is taken. -/
theorem enroll?_eq_none_iff {roster : Roster name} {item : α} :
    roster.enroll? item = none ↔ name item ∈ roster.names := by
  simp [enroll?, names]

/-- The enrolled item comes last, and nothing else changes. -/
theorem enroll?_eq_some_iff {roster enrolled : Roster name} {item : α} :
    roster.enroll? item = some enrolled ↔
      name item ∉ roster.names ∧ enrolled.items = roster.items ++ [item] := by
  unfold enroll? names
  split
  case isTrue taken => simp [taken]
  case isFalse free =>
    cases enrolled
    simp [free, eq_comm]

end Roster

end EntityGen
