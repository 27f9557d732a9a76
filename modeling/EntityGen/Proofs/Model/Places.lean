/-
  Proofs/Model/Places.lean --- places of names.

  Source: section 7 of the specification (diagnostics carry source spans), for
  `Model/Source.lean`.

  A name is looked for in one spelling after the other, and the first one that stands in the
  text decides. Which one that is does not depend on the direction of the search, so that
  the first place of a name never lies behind its last place. Either place is a stretch of
  the text that holds the name and nothing else.
-/
import EntityGen.Model.Source
import EntityGen.Proofs.Text.Search

set_option autoImplicit false

namespace EntityGen

namespace Text

/-- The span is a stretch of the text: it lies inside the text, begins and ends between characters, and
what stands there is the content. -/
structure Span.Covers (span : Span) (text content : String) : Prop where
  inside : span.offset + span.length ≤ text.utf8ByteSize
  begins : String.Pos.Raw.IsValid text ⟨span.offset⟩
  ends : String.Pos.Raw.IsValid text ⟨span.offset + span.length⟩
  content_eq :
    String.Pos.Raw.extract text ⟨span.offset⟩ ⟨span.offset + span.length⟩ = content

/-- Cutting a text around a part gives the bytes before the part and those of the part. -/
theorem covers_of_occursAt {text content : String} {offset : Nat}
    (occurs : OccursAt content.toList text.toList offset) :
    Span.Covers ⟨offset, byteLength content.toList⟩ text content := by
  obtain ⟨before, after, whole, rfl⟩ := occurs
  have cut : text = String.ofList before ++ content ++ String.ofList after := by
    rw [← String.toList_inj, whole]
    simp only [String.toList_append, String.toList_ofList]
  have start : (String.ofList before).utf8ByteSize = byteLength before := by
    rw [← byteLength_toList, String.toList_ofList]
  have stop : (String.ofList before ++ content).utf8ByteSize =
      byteLength before + byteLength content.toList := by
    rw [String.utf8ByteSize_append, start, byteLength_toList]
  constructor
  · rw [cut, String.utf8ByteSize_append, stop]
    exact Nat.le_add_right _ _
  · rw [String.Pos.Raw.isValid_iff_exists_append]
    refine ⟨String.ofList before, content ++ String.ofList after, ?_, ?_⟩
    · rw [cut, String.append_assoc]
    · exact String.Pos.Raw.ext start.symm
  · rw [String.Pos.Raw.isValid_iff_exists_append]
    exact ⟨_, _, cut, String.Pos.Raw.ext stop.symm⟩
  · have extracted := String.extract_of_valid before content.toList after
    rw [← whole, String.ofList_toList, String.ofList_toList] at extracted
    simpa only [byteLength_eq_utf8Len] using extracted

end Text

namespace Model

open EntityGen.Text (IsSearch OccursAt Span byteLength)

variable {find : List Char → List Char → Option Nat} {text name : String}

/-! ## Spellings -/

/-- What stands right before a quoted name, in the order in which it is looked for. -/
def quoteLeads : List String := ["= \"", "=\"", "\""]

/-- The spelling of a name between a lead and a closing quote. -/
def quotedBehind (name : List Char) (lead : String) : Spelling :=
  ⟨lead.toList ++ name ++ ['"'], byteLength lead.toList⟩

theorem spellings_eq (name : List Char) :
    spellings name = quoteLeads.map (quotedBehind name) ++ [⟨name, 0⟩] :=
  rfl

/-- In every spelling the name stands behind the lead. -/
theorem exists_pattern_eq {name : List Char} {spelling : Spelling}
    (mem : spelling ∈ spellings name) : ∃ before after,
      spelling.pattern = before ++ name ++ after ∧ spelling.lead = byteLength before := by
  rw [spellings_eq, List.mem_append, List.mem_singleton] at mem
  rcases mem with quoted | rfl
  · obtain ⟨lead, -, rfl⟩ := List.mem_map.1 quoted
    exact ⟨lead.toList, ['"'], rfl, rfl⟩
  · exact ⟨[], [], (List.append_nil name).symm, rfl⟩

/-- Where a spelling stands, the name stands behind its lead. -/
theorem occursAt_of_spelling {name cs : List Char} {spelling : Spelling} {offset : Nat}
    (mem : spelling ∈ spellings name) (occurs : OccursAt spelling.pattern cs offset) :
    OccursAt name cs (offset + spelling.lead) := by
  obtain ⟨front, back, pattern, lead⟩ := exists_pattern_eq mem
  obtain ⟨before, after, whole, rfl⟩ := occurs
  refine ⟨before ++ front, back ++ after, ?_, ?_⟩
  · rw [whole, pattern]
    simp only [List.append_assoc]
  · rw [lead, Text.byteLength_append]

/-- The first spelling of a name that stands among the characters. -/
def spelling? (cs name : List Char) : Option Spelling :=
  (spellings name).find? fun spelling => decide (spelling.pattern <:+: cs)

theorem mem_of_spelling? {cs name : List Char} {spelling : Spelling}
    (first : spelling? cs name = some spelling) : spelling ∈ spellings name :=
  List.mem_of_find?_eq_some first

theorem infix_of_spelling? {cs name : List Char} {spelling : Spelling}
    (first : spelling? cs name = some spelling) : spelling.pattern <:+: cs := by
  have kept := List.find?_some first
  simpa using kept

/-- The bare name is the last spelling, and it stands in all of them. -/
theorem spelling?_eq_none_iff {cs name : List Char} :
    spelling? cs name = none ↔ ¬ name <:+: cs := by
  simp only [spelling?, List.find?_eq_none, decide_eq_true_eq]
  constructor
  · intro none
    exact none ⟨name, 0⟩ (by simp [spellings])
  · intro missing spelling mem stands
    obtain ⟨before, after, pattern, -⟩ := exists_pattern_eq mem
    exact missing (List.IsInfix.trans ⟨before, after, pattern.symm⟩ stands)

/-! ## Places -/

theorem placeBy_empty (find : List Char → List Char → Option Nat) (text : String) :
    placeBy find text "" = none :=
  rfl

/-- The place of a name, where a search finds the first spelling that stands in the text. -/
theorem placeBy_eq (search : IsSearch find) (named : name ≠ "") :
    placeBy find text name =
      (spelling? text.toList name.toList).bind fun spelling =>
        (find spelling.pattern text.toList).map fun offset =>
          ⟨offset + spelling.lead, byteLength name.toList⟩ := by
  have nonempty : name.isEmpty = false := by simpa using named
  simp only [placeBy, nonempty, Bool.false_eq_true, if_false, spelling?]
  induction spellings name.toList with
  | nil => rfl
  | cons spelling rest ih =>
    rw [List.findSome?_cons, List.find?_cons, ih]
    by_cases stands : spelling.pattern <:+: text.toList
    · -- What stands in the text is found, so no later spelling is looked at.
      cases found : find spelling.pattern text.toList with
      | none => exact absurd stands (search.none_iff.1 found)
      | some offset => simp [stands, found]
    · rw [search.none_iff.2 stands]
      simp [stands]

theorem placeBy_eq_none_iff (search : IsSearch find) :
    placeBy find text name = none ↔ name = "" ∨ ¬ name.toList <:+: text.toList := by
  by_cases named : name = ""
  · subst named
    exact iff_of_true (placeBy_empty find text) (Or.inl rfl)
  · rw [placeBy_eq search named, ← spelling?_eq_none_iff]
    cases first : spelling? text.toList name.toList with
    | none => simp
    | some spelling =>
      cases found : find spelling.pattern text.toList with
      | none => exact absurd (infix_of_spelling? first) (search.none_iff.1 found)
      | some offset => simp [found, named]

/-- A place comes from an occurrence of the first spelling that stands in the text. -/
theorem exists_of_placeBy_eq (search : IsSearch find) {span : Span}
    (found : placeBy find text name = some span) : ∃ spelling offset,
      spelling? text.toList name.toList = some spelling ∧
        find spelling.pattern text.toList = some offset ∧
        span = ⟨offset + spelling.lead, byteLength name.toList⟩ := by
  by_cases named : name = ""
  · subst named
    cases found
  · rw [placeBy_eq search named] at found
    obtain ⟨spelling, first, found⟩ := Option.bind_eq_some_iff.1 found
    obtain ⟨offset, here, same⟩ := Option.map_eq_some_iff.1 found
    exact ⟨spelling, offset, first, here, same.symm⟩

theorem covers_of_placeBy (search : IsSearch find) {span : Span}
    (found : placeBy find text name = some span) : span.Covers text name := by
  obtain ⟨spelling, offset, first, here, rfl⟩ := exists_of_placeBy_eq search found
  have occurs : OccursAt spelling.pattern text.toList offset := search.occursAt here
  exact Text.covers_of_occursAt (occursAt_of_spelling (mem_of_spelling? first) occurs)

/-- Both directions look at the same spelling. -/
theorem offset_firstPlace_le {scope : Scope} {first last : Span}
    (front : scope.firstPlace name = some first) (back : scope.lastPlace name = some last) :
    first.offset ≤ last.offset := by
  obtain ⟨spelling, offset, same, least, rfl⟩ :=
    exists_of_placeBy_eq Text.isSearch_findOffset front
  obtain ⟨spelling', offset', same', greatest, rfl⟩ :=
    exists_of_placeBy_eq Text.isSearch_findLastOffset back
  obtain rfl : spelling = spelling' := Option.some.inj (same.symm.trans same')
  have occurs : OccursAt spelling.pattern scope.source.text.toList offset' :=
    (Text.isGreatest_of_findLastOffset greatest).1
  have ordered : offset ≤ offset' := (Text.isLeast_of_findOffset least).2 occurs
  exact Nat.add_le_add_right ordered _

end Model

end EntityGen
