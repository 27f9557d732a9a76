/-
  Text/Pieces.lean --- pieces of a text.

  Source: the specification, section 3: the namespace of a name is all but its last dotted
  segment, the simple name is the last one.

  Cutting a text at every occurrence of one character, and at the last of them.

  Cutting is by recursion on the characters. The lemmas beside the definitions say when
  nothing is cut and what is cut from a text that was put together, so that proofs about
  names do not open them.
-/

set_option autoImplicit false

namespace EntityGen.Text

/-- The pieces between the occurrences of `mark`; a text without it is one piece. -/
def piecesAt (mark : Char) : List Char → List (List Char)
  | [] => [[]]
  | c :: rest =>
    if c = mark then [] :: piecesAt mark rest
    else
      match piecesAt mark rest with
      | [] => [[c]]
      | piece :: more => (c :: piece) :: more

/-- What stands before and after the last occurrence of `mark`, if there is one. -/
def cutAtLast (mark : Char) : List Char → Option (List Char × List Char)
  | [] => none
  | c :: rest =>
    match cutAtLast mark rest with
    | some (before, after) => some (c :: before, after)
    | none => if c = mark then some ([], rest) else none

theorem cutAtLast_eq_none_iff {mark : Char} {cs : List Char} :
    cutAtLast mark cs = none ↔ mark ∉ cs := by
  induction cs with
  | nil => simp [cutAtLast]
  | cons c rest ih =>
    unfold cutAtLast
    cases cut : cutAtLast mark rest with
    | some parts =>
      have later : mark ∈ rest := by simpa [cut] using ih
      simp [later]
    | none =>
      have free : mark ∉ rest := ih.1 cut
      by_cases hit : c = mark
      · simp [hit]
      · simp [hit, free, Ne.symm hit]

theorem cutAtLast_append {mark : Char} {after : List Char} (free : mark ∉ after)
    (before : List Char) : cutAtLast mark (before ++ mark :: after) = some (before, after) := by
  induction before with
  | nil => simp [cutAtLast, cutAtLast_eq_none_iff.2 free]
  | cons c rest ih => simp [cutAtLast, ih]

theorem eq_append_of_cutAtLast {mark : Char} {cs before after : List Char}
    (h : cutAtLast mark cs = some (before, after)) :
    cs = before ++ mark :: after ∧ mark ∉ after := by
  induction cs generalizing before with
  | nil => simp [cutAtLast] at h
  | cons c rest ih =>
    unfold cutAtLast at h
    cases cut : cutAtLast mark rest with
    | some parts =>
      rw [cut] at h
      cases h
      obtain ⟨whole, free⟩ := ih cut
      exact ⟨by rw [whole, List.cons_append], free⟩
    | none =>
      by_cases hit : c = mark
      · rw [cut, if_pos hit] at h
        cases h
        exact ⟨by rw [hit, List.nil_append], cutAtLast_eq_none_iff.1 cut⟩
      · simp [cut, hit] at h

/-- A cut leaves out nothing but the mark, and there is no mark after it. -/
theorem cutAtLast_eq_some_iff {mark : Char} {cs before after : List Char} :
    cutAtLast mark cs = some (before, after) ↔ cs = before ++ mark :: after ∧ mark ∉ after :=
  ⟨eq_append_of_cutAtLast, fun h => h.1 ▸ cutAtLast_append h.2 before⟩

/-- The pieces of a text between the occurrences of `mark`. -/
def split (mark : Char) (s : String) : List String :=
  (piecesAt mark s.toList).map String.ofList

/-- The text with every `mark` replaced by `other`. -/
def replaceChar (mark other : Char) (s : String) : String :=
  String.ofList (s.toList.map fun c => if c = mark then other else c)

/-- The texts one after the other with `separator` between neighbours. -/
def join (separator : String) : List String → String
  | [] => ""
  | [only] => only
  | first :: rest => first ++ separator ++ join separator rest

end EntityGen.Text
