/-
  Proofs/Model/LastPlace.lean --- the last place of a repeated name.

  Source: section 7 of the specification (diagnostics carry source spans), for the fault of
  a name that is declared twice.

  A name that is quoted somewhere in a source is looked for behind the first lead that
  stands before a quoted occurrence of it, and the last place is the last occurrence behind
  that lead. It is the last quoted occurrence of the name exactly if that one stands behind
  the same lead; a last occurrence that is spaced in another way, or listed in an array, is
  passed over.
-/
import EntityGen.Proofs.Model.Labels

set_option autoImplicit false

namespace EntityGen.Model

open EntityGen.Text (OccursAt byteLength)

variable {text name lead : String} {offset : Nat}

/-! ## Quoted occurrences -/

/-- The name stands in the text behind so many bytes, right behind the lead and right before a quote. -/
def QuotedAt (lead text name : String) (offset : Nat) : Prop :=
  ∃ before after : String, text = before ++ lead ++ name ++ "\"" ++ after ∧
    offset = (before ++ lead).utf8ByteSize

/-- The lead is the first that stands before a quoted occurrence of the name. -/
def IsFirstLead (text name lead : String) : Prop :=
  (∃ offset, QuotedAt lead text name offset) ∧
    ∃ stronger weaker, quoteLeads = stronger ++ lead :: weaker ∧
      ∀ other ∈ stronger, ∀ offset, ¬ QuotedAt other text name offset

/-- A quoted occurrence is an occurrence of the spelling with its lead. -/
theorem quotedAt_iff : QuotedAt lead text name offset ↔
    ∃ start, OccursAt (quotedBehind name.toList lead).pattern text.toList start ∧
      offset = start + (quotedBehind name.toList lead).lead := by
  constructor
  · rintro ⟨before, after, rfl, rfl⟩
    refine ⟨byteLength before.toList, ⟨before.toList, after.toList, ?_, rfl⟩, ?_⟩
    · simp [quotedBehind, String.toList_append]
    · rw [quotedBehind, Text.byteLength_toList, Text.byteLength_toList,
        String.utf8ByteSize_append]
  · rintro ⟨start, ⟨before, after, whole, rfl⟩, rfl⟩
    refine ⟨String.ofList before, String.ofList after, ?_, ?_⟩
    · rw [← String.toList_inj, whole]
      simp [quotedBehind, String.toList_append]
    · rw [String.utf8ByteSize_append, ← Text.byteLength_toList, ← Text.byteLength_toList,
        String.toList_ofList, quotedBehind]

theorem exists_quotedAt_iff : (∃ offset, QuotedAt lead text name offset) ↔
    (quotedBehind name.toList lead).pattern <:+: text.toList := by
  rw [← Text.exists_occursAt_iff]
  constructor
  · rintro ⟨offset, quoted⟩
    obtain ⟨start, occurs, -⟩ := quotedAt_iff.1 quoted
    exact ⟨start, occurs⟩
  · rintro ⟨start, occurs⟩
    exact ⟨_, quotedAt_iff.2 ⟨start, occurs, rfl⟩⟩

/-- Every lead ends with the opening quote. -/
theorem QuotedAt.opened (listed : lead ∈ quoteLeads) (quoted : QuotedAt lead text name offset) :
    QuotedAt "\"" text name offset := by
  have ends : ∃ front, lead = front ++ "\"" := by
    simp only [quoteLeads, List.mem_cons, List.not_mem_nil, or_false] at listed
    rcases listed with rfl | rfl | rfl
    · exact ⟨"= ", rfl⟩
    · exact ⟨"=", rfl⟩
    · exact ⟨"", rfl⟩
  obtain ⟨front, rfl⟩ := ends
  obtain ⟨before, after, rfl, rfl⟩ := quoted
  refine ⟨before ++ front, after, ?_, ?_⟩
  · simp only [String.append_assoc]
  · rw [String.append_assoc]

/-- The search from the back gives the last occurrence behind a lead. -/
theorem isGreatest_quotedAt {start : Nat}
    (found : Text.findLastOffset (quotedBehind name.toList lead).pattern text.toList = some start) :
    IsGreatest {offset | QuotedAt lead text name offset}
      (start + (quotedBehind name.toList lead).lead) := by
  obtain ⟨occurs, greatest⟩ := Text.isGreatest_of_findLastOffset found
  refine ⟨quotedAt_iff.2 ⟨start, occurs, rfl⟩, fun offset quoted => ?_⟩
  obtain ⟨earlier, occurs', rfl⟩ := quotedAt_iff.1 quoted
  exact Nat.add_le_add_right (greatest occurs') _

theorem exists_isGreatest_quotedAt (quoted : ∃ offset, QuotedAt lead text name offset) :
    ∃ start, Text.findLastOffset (quotedBehind name.toList lead).pattern text.toList = some start ∧
      IsGreatest {offset | QuotedAt lead text name offset}
        (start + (quotedBehind name.toList lead).lead) := by
  have stands := exists_quotedAt_iff.1 quoted
  obtain ⟨start, found⟩ :=
    Option.ne_none_iff_exists'.1 fun none => Text.findLastOffset_eq_none_iff.1 none stands
  exact ⟨start, found, isGreatest_quotedAt found⟩

/-- A quoted name is looked for behind the first lead. -/
theorem exists_firstLead (quoted : ∃ offset, QuotedAt "\"" text name offset) :
    ∃ lead, IsFirstLead text name lead ∧
      spelling? text.toList name.toList = some (quotedBehind name.toList lead) := by
  have stands := exists_quotedAt_iff.1 quoted
  cases first : quoteLeads.find? fun lead =>
      decide ((quotedBehind name.toList lead).pattern <:+: text.toList) with
  | none =>
    have missing := List.find?_eq_none.1 first "\"" (by simp [quoteLeads])
    exact absurd stands (by simpa using missing)
  | some lead =>
    obtain ⟨here, stronger, weaker, leads, none⟩ := List.find?_eq_some_iff_append.1 first
    refine ⟨lead, ⟨exists_quotedAt_iff.2 (by simpa using here), stronger, weaker, leads, ?_⟩, ?_⟩
    · intro other mem offset occurs
      have missing := none other mem
      exact absurd (exists_quotedAt_iff.1 ⟨offset, occurs⟩) (by simpa using missing)
    · have mapped : ((quoteLeads.map (quotedBehind name.toList)).find? fun spelling =>
          decide (spelling.pattern <:+: text.toList)) = some (quotedBehind name.toList lead) := by
        rw [List.find?_map]
        exact congrArg (Option.map (quotedBehind name.toList)) first
      rw [spelling?, spellings_eq, List.find?_append, mapped, Option.some_or]

/-! ## Main result -/

/-- A name that is quoted in a source has a last place, and the fault of a repetition points at it: it
is the last of its occurrences behind the first lead, and it is the last quoted occurrence of all
exactly if that one stands behind this lead as well. -/
theorem last_place_exact_iff (scope : Scope) {name : String} (named : name ≠ "")
    (quoted : ∃ offset, QuotedAt "\"" scope.source.text name offset) :
    ∃ lead found last, IsFirstLead scope.source.text name lead ∧
      IsGreatest {offset | QuotedAt lead scope.source.text name offset} found ∧
      IsGreatest {offset | QuotedAt "\"" scope.source.text name offset} last ∧
      scope.lastPlace name = some ⟨found, name.utf8ByteSize⟩ ∧
      (∀ violation, (scope.repeated violation name).place? =
        some ⟨found, name.utf8ByteSize⟩) ∧
      found ≤ last ∧ (found = last ↔ QuotedAt lead scope.source.text name last) := by
  obtain ⟨lead, first, spelled⟩ := exists_firstLead quoted
  obtain ⟨start, here, greatest⟩ := exists_isGreatest_quotedAt first.1
  obtain ⟨stop, -, last⟩ := exists_isGreatest_quotedAt quoted
  have listed : lead ∈ quoteLeads := by
    obtain ⟨stronger, weaker, leads, -⟩ := first.2
    rw [leads]
    exact List.mem_append_right _ List.mem_cons_self
  have place : scope.lastPlace name =
      some ⟨start + (quotedBehind name.toList lead).lead, name.utf8ByteSize⟩ := by
    rw [Scope.lastPlace, placeBy_eq Text.isSearch_findLastOffset named, spelled,
      Option.bind_some, here, Option.map_some, Text.byteLength_toList]
  have labelled : ∀ violation, (scope.repeated violation name).place? =
      some ⟨start + (quotedBehind name.toList lead).lead, name.utf8ByteSize⟩ := by
    intro violation
    rw [Scope.repeated, place]
    rfl
  refine ⟨lead, _, _, first, greatest, last, place, labelled, last.2 (greatest.1.opened listed), ?_⟩
  constructor
  · intro same
    exact same ▸ greatest.1
  · intro behind
    exact Nat.le_antisymm (last.2 (greatest.1.opened listed)) (greatest.2 behind)

/-- Part of a source in which a field is declared twice, between mentions of it. -/
def mentioned : Source :=
  ⟨"fields = [\"age\"]\nname = \"age\"\nname = \"age\"\nfields=[\"age\"]\n", "bom.toml"⟩

theorem last_place_exact_iff_mentioned :
    "age" ≠ "" ∧ (∃ offset, QuotedAt "\"" mentioned.text "age" offset) ∧
      ∃ lead found last, IsFirstLead mentioned.text "age" lead ∧
        IsGreatest {offset | QuotedAt lead mentioned.text "age" offset} found ∧
        IsGreatest {offset | QuotedAt "\"" mentioned.text "age" offset} last ∧
        (Scope.top mentioned).lastPlace "age" = some ⟨found, "age".utf8ByteSize⟩ ∧
        (∀ violation, ((Scope.top mentioned).repeated violation "age").place? =
          some ⟨found, "age".utf8ByteSize⟩) ∧
        found ≤ last ∧ (found = last ↔ QuotedAt lead mentioned.text "age" last) := by
  have named : "age" ≠ "" := by decide
  have quoted : ∃ offset, QuotedAt "\"" mentioned.text "age" offset :=
    ⟨11, "fields = [", "]\nname = \"age\"\nname = \"age\"\nfields=[\"age\"]\n", by decide +kernel,
      by decide +kernel⟩
  exact ⟨named, quoted, last_place_exact_iff (Scope.top mentioned) named quoted⟩

/-- A source in which a field is declared twice, the second time without blanks around the sign. -/
def respaced : Source :=
  ⟨"[[business_objects]]\nqualified_name = \"org.acme.Pet\"\n[[business_objects.fields]]\n" ++
    "name = \"age\"\ntype = \"DATE\"\n[[business_objects.fields]]\n" ++
    "name=\"age\"\ntype = \"DATE\"\n", "bom.toml"⟩

/-- The place of the first declaration is given as the last one. -/
theorem last_place_misses_respaced :
    ∃ span, (Scope.top respaced).lastPlace "age" = some span ∧
      ¬ IsGreatest {offset | QuotedAt "\"" respaced.text "age" offset} span.offset := by
  have place : (Scope.top respaced).lastPlace "age" = some ⟨89, 3⟩ := by decide +kernel
  have later : QuotedAt "\"" respaced.text "age" 142 :=
    ⟨"[[business_objects]]\nqualified_name = \"org.acme.Pet\"\n[[business_objects.fields]]\n" ++
      "name = \"age\"\ntype = \"DATE\"\n[[business_objects.fields]]\nname=",
      "\ntype = \"DATE\"\n", by decide +kernel, by decide +kernel⟩
  refine ⟨⟨89, 3⟩, place, fun greatest => ?_⟩
  have bound : 142 ≤ 89 := greatest.2 later
  omega

end EntityGen.Model
