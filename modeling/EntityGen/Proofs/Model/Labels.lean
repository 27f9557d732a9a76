/-
  Proofs/Model/Labels.lean --- labels of faults.

  Source: section 7 of the specification: diagnostics carry source spans.

  A fault of the rules points at the name it is about. Its label covers that name and
  nothing else, and is left out only where the name does not stand in the source. Counting
  the place of a name back from the end of the spelling that was found gives the same place,
  and never runs below zero.
-/
import EntityGen.Proofs.Model.Places
import EntityGen.Proofs.Model.Violations

set_option autoImplicit false

namespace EntityGen.Model

open EntityGen.Text (IsSearch Span byteLength)

/-! ## Counting back -/

/-- So much less, unless that leads below zero. -/
def takeOff? (n amount : Nat) : Option Nat :=
  if amount ≤ n then some (n - amount) else none

theorem takeOff?_of_le {n amount : Nat} (enough : amount ≤ n) :
    takeOff? n amount = some (n - amount) :=
  if_pos enough

/-- The bytes up to the end of the first quoted spelling that is found. -/
def quotedEnd? (find : List Char → List Char → Option Nat) (text name : String) : Option Nat :=
  (quoteLeads.map (quotedBehind name.toList)).findSome? fun spelling =>
    (find spelling.pattern text.toList).map fun offset => offset + byteLength spelling.pattern

/-- The place of a name, counted back from the end of a quoted spelling over the name and a quote;
nothing comes out where that leads below zero. A name that is not quoted stands where it is found. -/
def placeCountedBack (find : List Char → List Char → Option Nat) (text name : String) :
    Option (Option Span) :=
  let length := byteLength name.toList
  if name.isEmpty then some none
  else
    match quotedEnd? find text name with
    | some stop => do
      let start ← takeOff? (← takeOff? stop length) 1
      return some ⟨start, length⟩
    | none => some ((find name.toList text.toList).map fun offset => ⟨offset, length⟩)

theorem byteLength_quotedBehind (name : List Char) (lead : String) :
    byteLength (quotedBehind name lead).pattern =
      (quotedBehind name lead).lead + byteLength name + 1 := by
  have quote : byteLength ['"'] = 1 := rfl
  simp only [quotedBehind, Text.byteLength_append, quote]

section

variable {find : List Char → List Char → Option Nat} {text name : String}

/-- Behind the name and its closing quote there is room for both. -/
theorem lt_quotedEnd? {stop : Nat} (ended : quotedEnd? find text name = some stop) :
    byteLength name.toList + 1 ≤ stop := by
  obtain ⟨spelling, mem, found⟩ := List.exists_of_findSome?_eq_some ended
  obtain ⟨lead, -, rfl⟩ := List.mem_map.1 mem
  obtain ⟨offset, -, rfl⟩ := Option.map_eq_some_iff.1 found
  have room := byteLength_quotedBehind name.toList lead
  omega

/-- The quoted spellings give the place that is counted back from their end. -/
theorem findSome?_quoted_eq (find : List Char → List Char → Option Nat) (text name : String) :
    ((quoteLeads.map (quotedBehind name.toList)).findSome? fun spelling =>
        (find spelling.pattern text.toList).map fun offset =>
          Span.mk (offset + spelling.lead) (byteLength name.toList)) =
      (quotedEnd? find text name).map fun stop =>
        ⟨stop - byteLength name.toList - 1, byteLength name.toList⟩ := by
  rw [quotedEnd?, List.map_findSome?]
  simp only [List.findSome?_map]
  congr 1
  funext lead
  have room := byteLength_quotedBehind name.toList lead
  simp only [Function.comp_apply]
  cases find (quotedBehind name.toList lead).pattern text.toList with
  | none => rfl
  | some offset =>
    have start : offset + byteLength (quotedBehind name.toList lead).pattern -
        byteLength name.toList - 1 = offset + (quotedBehind name.toList lead).lead := by omega
    simp [start]

/-- However names are searched for, counting back gives their places and never runs below zero. -/
theorem placeCountedBack_eq (find : List Char → List Char → Option Nat) (text name : String) :
    placeCountedBack find text name = some (placeBy find text name) := by
  unfold placeCountedBack placeBy
  cases name.isEmpty with
  | true => rfl
  | false =>
    rw [spellings_eq, List.findSome?_append, findSome?_quoted_eq]
    cases ended : quotedEnd? find text name with
    | none => simp
    | some stop =>
      have room : byteLength name.toList + 1 ≤ stop := lt_quotedEnd? ended
      have name_le : byteLength name.toList ≤ stop := by omega
      have quote_le : 1 ≤ stop - byteLength name.toList := by omega
      simp [takeOff?_of_le name_le, takeOff?_of_le quote_le]

end

/-! ## Labels -/

/-- The place is that of the name in the text, and there is none only if there cannot be one. -/
def Located (text name : String) : Option Span → Prop
  | some span => span.Covers text name
  | none => name = "" ∨ ¬ name.toList <:+: text.toList

theorem located_placeBy {find : List Char → List Char → Option Nat} (search : IsSearch find)
    (text name : String) : Located text name (placeBy find text name) := by
  cases found : placeBy find text name with
  | none => exact (placeBy_eq_none_iff search).1 found
  | some span => exact covers_of_placeBy search found

theorem located_firstPlace (scope : Scope) (name : String) :
    Located scope.source.text name (scope.firstPlace name) :=
  located_placeBy Text.isSearch_findOffset scope.source.text name

theorem located_lastPlace (scope : Scope) (name : String) :
    Located scope.source.text name (scope.lastPlace name) :=
  located_placeBy Text.isSearch_findLastOffset scope.source.text name

/-- The stretch of the source that a fault points at. -/
def ModelFault.place? (fault : ModelFault) : Option Span :=
  fault.label?.map Label.span

theorem located_label {text name : String} {place : Option Span} (located : Located text name place)
    (label : String) :
    Located text name ((place.map fun span => Label.mk span label).map Label.span) := by
  cases place with
  | none => exact located
  | some span => exact located

/-- Whatever a scope says about a name, it points at the name. -/
theorem located_place? (scope : Scope) (violation : Violation) (name kind : String)
    (cause : NameFault) : ∀ fault ∈ [scope.violation violation name,
      scope.repeated violation name, scope.keyword name kind, scope.badName name kind cause],
      Located scope.source.text name fault.place? := by
  have front := located_firstPlace scope name
  have back := located_lastPlace scope name
  simp only [List.forall_mem_cons]
  exact ⟨located_label front _, located_label back _, located_label front _,
    located_label front _, fun fault mem => absurd mem List.not_mem_nil⟩

/-- A fault that is raised in a source points at the name it is about. -/
theorem RaisedIn.located {source : Source} {fault : ModelFault} (raised : RaisedIn source fault) :
    ∃ name, fault.subject? = some name ∧ Located source.text name fault.place? := by
  cases raised with
  | @violation path violation name about =>
    exact ⟨name, about, located_label (located_firstPlace ⟨source, path⟩ name) _⟩
  | @repeated path violation name about =>
    exact ⟨name, about, located_label (located_lastPlace ⟨source, path⟩ name) _⟩
  | keyword path name kind =>
    exact ⟨name, rfl, located_label (located_firstPlace ⟨source, path⟩ name) _⟩
  | badName path name kind cause =>
    exact ⟨name, rfl, located_label (located_firstPlace ⟨source, path⟩ name) _⟩

/-! ## Main result -/

/-- A name has a first and a last place in a source exactly if it is not empty and stands in the
source. Both places then cover the name, and the first one does not lie behind the last. Counted back
from the end of a spelling they are the same, and the count never runs below zero. Whatever is said
about the name points at a place that covers it, and so does every fault for which business objects are
refused, for the name that it is about. -/
theorem places_cover_names (scope : Scope) (name : String) :
    ((name = "" ∨ ¬ name.toList <:+: scope.source.text.toList) ∧
        scope.firstPlace name = none ∧ scope.lastPlace name = none ∨
      name ≠ "" ∧ name.toList <:+: scope.source.text.toList ∧
        ∃ first last, scope.firstPlace name = some first ∧ scope.lastPlace name = some last ∧
          first.Covers scope.source.text name ∧ last.Covers scope.source.text name ∧
          first.offset ≤ last.offset) ∧
    placeCountedBack Text.findOffset scope.source.text name = some (scope.firstPlace name) ∧
    placeCountedBack Text.findLastOffset scope.source.text name = some (scope.lastPlace name) ∧
    (∀ violation kind cause, ∀ fault ∈ [scope.violation violation name,
      scope.repeated violation name, scope.keyword name kind, scope.badName name kind cause],
      Located scope.source.text name fault.place?) ∧
    ∀ objects fault, checkObjects scope.source objects = .error fault →
      ∃ subject, fault.subject? = some subject ∧
        Located scope.source.text subject fault.place? := by
  refine ⟨?_, placeCountedBack_eq _ _ _, placeCountedBack_eq _ _ _,
    fun violation kind cause => located_place? scope violation name kind cause, ?_⟩
  · have front : scope.firstPlace name = none ↔ _ := placeBy_eq_none_iff Text.isSearch_findOffset
    have back : scope.lastPlace name = none ↔ _ := placeBy_eq_none_iff Text.isSearch_findLastOffset
    by_cases missing : name = "" ∨ ¬ name.toList <:+: scope.source.text.toList
    · exact Or.inl ⟨missing, front.2 missing, back.2 missing⟩
    · obtain ⟨first, found⟩ := Option.ne_none_iff_exists'.1 (mt front.1 missing)
      obtain ⟨last, found'⟩ := Option.ne_none_iff_exists'.1 (mt back.1 missing)
      rw [not_or, not_not] at missing
      exact Or.inr ⟨missing.1, missing.2, first, last, found, found',
        covers_of_placeBy Text.isSearch_findOffset found,
        covers_of_placeBy Text.isSearch_findLastOffset found', offset_firstPlace_le found found'⟩
  · intro objects fault refused
    rw [checkObjects_eq_failFirst, failFirst_eq_error_iff] at refused
    exact (raised_of_mem_violations (List.mem_of_mem_head? refused)).located

/-- A source in which a field is declared twice, behind characters of more than one byte. -/
def sized : Source :=
  ⟨"description = \"Größe\"\nname = \"size\"\nname = \"size\"\n", "bom.toml"⟩

/-- The object with these fields. -/
def shoe : BusinessObject :=
  ⟨"org.acme.Shoe", some "Größe",
    [⟨"size", .integer, true, none⟩, ⟨"size", .double, true, none⟩], [], []⟩

theorem places_cover_names_sized :
    checkObjects sized [shoe] =
        .error (.invalid sized (some ⟨46, 4⟩) (.fieldRepeated "size")) ∧
      (⟨46, 4⟩ : Span).Covers sized.text "size" := by
  have refused : checkObjects sized [shoe] =
      .error (.invalid sized (some ⟨46, 4⟩) (.fieldRepeated "size")) := by decide +kernel
  obtain ⟨-, -, -, -, faults⟩ := places_cover_names (Scope.top sized) "size"
  obtain ⟨subject, about, located⟩ := faults [shoe] _ refused
  obtain rfl : "size" = subject := Option.some.inj about
  exact ⟨refused, located⟩

end EntityGen.Model
