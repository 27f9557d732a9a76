/-
  Proofs/Naming.lean --- the parts of dotted names.

  Source: the specification, section 3 (`namespace()` and `simple_name()`) and section 4.4
  (`<qualified name>DAO`).

  A name with a package is its package, a dot, and its simple name, and both can be told
  from it. What is added behind a dotted name goes to its simple name, which is also its
  last segment.
-/
import EntityGen.Naming

set_option autoImplicit false

namespace EntityGen

namespace Text

/-! ## Beginnings and ends -/

/-- A text that begins like none of the words is none of them. -/
theorem append_not_mem_of_lead {words : List String} {lead : String}
    (unlike : ∀ word ∈ words, ¬ lead.toList.isPrefixOf word.toList) (tail : String) :
    lead ++ tail ∉ words := by
  intro mem
  refine unlike _ mem (List.isPrefixOf_iff_prefix.2 ?_)
  rw [String.toList_append]
  exact List.prefix_append _ _

/-- A text that ends like none of the words is none of them. -/
theorem append_not_mem_of_tail {words : List String} {tail : String}
    (unlike : ∀ word ∈ words, ¬ tail.toList.isSuffixOf word.toList) (lead : String) :
    lead ++ tail ∉ words := by
  intro mem
  refine unlike _ mem (List.isSuffixOf_iff_suffix.2 ?_)
  rw [String.toList_append]
  exact List.suffix_append _ _

/-- What is read up to the first mark begins with all characters before it. -/
theorem takeWhile_of_not_mem {mark : Char} {cs : List Char} (free : mark ∉ cs) (rest : List Char) :
    (cs ++ rest).takeWhile (· != mark) = cs ++ rest.takeWhile (· != mark) := by
  refine List.takeWhile_append_of_pos fun c mem => ?_
  rw [bne_iff_ne]
  rintro rfl
  exact free mem

/-- Texts that are the same up to their first marks are the same behind them. -/
theorem append_mark_inj {mark : Char} {before before' after after' : List Char}
    (free : mark ∉ before) (free' : mark ∉ before')
    (same : before ++ mark :: after = before' ++ mark :: after') :
    before = before' ∧ after = after' := by
  have fronts : before = before' := by
    have read := congrArg (List.takeWhile (· != mark)) same
    rw [takeWhile_of_not_mem free, takeWhile_of_not_mem free'] at read
    simpa using read
  rw [fronts] at same
  exact ⟨fronts, (List.cons.inj (List.append_cancel_left same)).2⟩

/-! ## Segments -/

/-- A text without the mark is one piece. -/
theorem piecesAt_of_not_mem {mark : Char} {cs : List Char} (free : mark ∉ cs) :
    piecesAt mark cs = [cs] := by
  induction cs with
  | nil => rfl
  | cons c rest ih =>
    simp only [List.mem_cons, not_or] at free
    rw [piecesAt, if_neg (Ne.symm free.1), ih free.2]

theorem split_of_not_mem {mark : Char} {s : String} (free : mark ∉ s.toList) :
    split mark s = [s] := by
  rw [split, piecesAt_of_not_mem free, List.map_singleton, String.ofList_toList]

/-- Characters added behind a text without a mark among them go to its last piece. -/
theorem piecesAt_append {mark : Char} {added : List Char} (free : mark ∉ added) (cs : List Char) :
    ∃ before last, piecesAt mark cs = before ++ [last] ∧
      piecesAt mark (cs ++ added) = before ++ [last ++ added] := by
  induction cs with
  | nil => exact ⟨[], [], rfl, piecesAt_of_not_mem free⟩
  | cons c rest ih =>
    obtain ⟨before, last, pieces, more⟩ := ih
    by_cases hit : c = mark
    · refine ⟨[] :: before, last, ?_, ?_⟩
      · rw [piecesAt, if_pos hit, pieces, List.cons_append]
      · rw [List.cons_append, piecesAt, if_pos hit, more, List.cons_append]
    · rw [List.cons_append]
      unfold piecesAt
      rw [if_neg hit, if_neg hit, pieces, more]
      cases before with
      | nil => exact ⟨[], c :: last, rfl, rfl⟩
      | cons piece others => exact ⟨(c :: piece) :: others, last, rfl, rfl⟩

theorem piecesAt_ne_nil (mark : Char) (cs : List Char) : piecesAt mark cs ≠ [] := by
  obtain ⟨before, last, pieces, -⟩ := piecesAt_append (List.not_mem_nil (a := mark)) cs
  rw [pieces]
  exact List.concat_ne_nil last before

/-- A mark parts the pieces before it from those after it. -/
theorem piecesAt_append_mark {mark : Char} (before after : List Char) :
    piecesAt mark (before ++ mark :: after) = piecesAt mark before ++ piecesAt mark after := by
  induction before with
  | nil => simp [piecesAt]
  | cons c rest ih =>
    simp only [List.cons_append, piecesAt, ih]
    split
    · rfl
    · cases pieces : piecesAt mark rest with
      | nil => exact absurd pieces (piecesAt_ne_nil mark rest)
      | cons piece more => rfl

/-- The characters of the pieces are those of the text but for the mark. -/
theorem exists_mem_piecesAt_iff {mark c : Char} (other : c ≠ mark) {cs : List Char} :
    (∃ piece ∈ piecesAt mark cs, c ∈ piece) ↔ c ∈ cs := by
  induction cs with
  | nil => simp [piecesAt]
  | cons first rest ih =>
    rw [List.mem_cons, ← ih, piecesAt]
    split
    · rename_i hit
      simp [hit, other]
    · cases pieces : piecesAt mark rest with
      | nil => exact absurd pieces (piecesAt_ne_nil mark rest)
      | cons piece more => simp [or_assoc]

/-- What is added behind a text goes to the last of its parts. -/
theorem split_append {mark : Char} {added : String} (free : mark ∉ added.toList) (s : String) :
    ∃ before last, split mark s = before ++ [last] ∧
      split mark (s ++ added) = before ++ [last ++ added] := by
  obtain ⟨before, last, pieces, more⟩ := piecesAt_append free s.toList
  refine ⟨before.map String.ofList, String.ofList last, ?_, ?_⟩
  · rw [split, pieces, List.map_append, List.map_singleton]
  · rw [split, String.toList_append, more, List.map_append, List.map_singleton,
      String.ofList_append, String.ofList_toList]

end Text

/-! ## Packages and simple names -/

namespace Naming

/-- The dotted name of a type in a package. -/
def dotted (packageName simpleName : String) : String :=
  packageName ++ "." ++ simpleName

theorem toList_dotted (packageName simpleName : String) :
    (dotted packageName simpleName).toList = packageName.toList ++ '.' :: simpleName.toList := by
  simp [dotted, String.toList_append]

/-- There is no dot in a simple name. -/
theorem not_mem_simpleNameOf (qualifiedName : String) :
    '.' ∉ (simpleNameOf qualifiedName).toList := by
  unfold simpleNameOf
  split
  · rename_i before after cut
    rw [String.toList_ofList]
    exact (Text.cutAtLast_eq_some_iff.1 cut).2
  · rename_i uncut
    exact Text.cutAtLast_eq_none_iff.1 uncut

/-- The parts of a name that is put together are what it was put together from. -/
theorem cutAtLast_dotted {simpleName : String} (plain : '.' ∉ simpleName.toList)
    (packageName : String) :
    Text.cutAtLast '.' (dotted packageName simpleName).toList =
      some (packageName.toList, simpleName.toList) := by
  rw [toList_dotted, Text.cutAtLast_append plain]

theorem namespaceOf_dotted {simpleName : String} (plain : '.' ∉ simpleName.toList)
    (packageName : String) : namespaceOf (dotted packageName simpleName) = packageName := by
  rw [namespaceOf, cutAtLast_dotted plain]
  exact String.ofList_toList

theorem simpleNameOf_dotted {simpleName : String} (plain : '.' ∉ simpleName.toList)
    (packageName : String) : simpleNameOf (dotted packageName simpleName) = simpleName := by
  rw [simpleNameOf, cutAtLast_dotted plain]
  exact String.ofList_toList

/-- A name with a package is put together from its parts. -/
theorem dotted_namespaceOf {qualifiedName : String}
    (packaged : (namespaceOf qualifiedName).isEmpty = false) :
    dotted (namespaceOf qualifiedName) (simpleNameOf qualifiedName) = qualifiedName := by
  unfold namespaceOf simpleNameOf at *
  split at packaged
  · rename_i before after cut
    rw [← String.toList_inj, toList_dotted, String.toList_ofList, String.toList_ofList,
      (Text.cutAtLast_eq_some_iff.1 cut).1]
  · simp at packaged

/-- A name with a package has a dot, so that it is no simple name. -/
theorem ne_simpleNameOf {qualifiedName : String}
    (packaged : (namespaceOf qualifiedName).isEmpty = false) (other : String) :
    qualifiedName ≠ simpleNameOf other := by
  intro same
  refine not_mem_simpleNameOf other ?_
  rw [← same, ← dotted_namespaceOf packaged, toList_dotted]
  exact List.mem_append_right _ List.mem_cons_self

/-- What is added behind a name with a package goes to its simple name. -/
theorem append_eq_dotted {qualifiedName : String}
    (packaged : (namespaceOf qualifiedName).isEmpty = false) (added : String) :
    qualifiedName ++ added =
      dotted (namespaceOf qualifiedName) (simpleNameOf qualifiedName ++ added) := by
  rw [dotted, ← String.append_assoc, ← dotted, dotted_namespaceOf packaged]

theorem plain_append {qualifiedName added : String} (free : '.' ∉ added.toList) :
    '.' ∉ (simpleNameOf qualifiedName ++ added).toList := by
  rw [String.toList_append, List.mem_append, not_or]
  exact ⟨not_mem_simpleNameOf qualifiedName, free⟩

theorem namespaceOf_append {qualifiedName added : String}
    (packaged : (namespaceOf qualifiedName).isEmpty = false) (free : '.' ∉ added.toList) :
    namespaceOf (qualifiedName ++ added) = namespaceOf qualifiedName := by
  rw [append_eq_dotted packaged, namespaceOf_dotted (plain_append free)]

theorem simpleNameOf_append {qualifiedName added : String}
    (packaged : (namespaceOf qualifiedName).isEmpty = false) (free : '.' ∉ added.toList) :
    simpleNameOf (qualifiedName ++ added) = simpleNameOf qualifiedName ++ added := by
  rw [append_eq_dotted packaged, simpleNameOf_dotted (plain_append free)]

end Naming

end EntityGen
