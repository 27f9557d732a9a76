/-
  Proofs/Java/Description.lean --- descriptions of entities.

  Source: the specification, section 3: the description is a documentation comment on the
  entity.

  The description of an object stands in a comment between the imports of its entity and the
  declaration. Who skips the comment as Java does arrives at the declaration exactly if the
  description does not end a comment; otherwise part of the description is left over before
  it.
-/
import EntityGen.Proofs.Blueprint.Entity
import EntityGen.Proofs.Java.Stretches
import EntityGen.Proofs.Layout.Comment

set_option autoImplicit false

namespace EntityGen.Java

open EntityGen.Blueprint (ClassSpec Variant doc_entityClass entityClass)
open EntityGen.Layout (Closes Fragment Indent Writer behindComment behindComment_append
  behindComment_commentAt_iff
  commentAt linesAt_javadocLines)
open EntityGen.Layout.Fragment (textsAt)
open EntityGen.Model (BusinessObject)
open Stretch (textOf ofCode)

/-- The class without its comment. -/
def uncommented (spec : ClassSpec) : ClassSpec :=
  { spec with doc := none }

/-- The package and the imports of a class. -/
def headerOf (spec : ClassSpec) : String :=
  textOf (headerStretches (settled spec) spec)

/-- The declaration of a class with its annotations and its members, as it stands behind the
comment. -/
def declarationOf (spec : ClassSpec) : String :=
  textOf (declarationStretches (settled spec) (uncommented spec) ++
    bodyStretches (settled spec) spec)

/-- Without a comment the declaration stands right behind the imports. -/
theorem classText_uncommented (spec : ClassSpec) :
    classText (uncommented spec) = headerOf spec ++ declarationOf spec := by
  rw [classText_eq_textOf, headerOf, declarationOf, ← Stretch.textOf_append]
  rw [stretches, List.append_assoc]
  rfl

/-- The comment comes before everything else of a declaration. -/
theorem textOf_declarationStretches (names : Resolver) (spec : ClassSpec) :
    textOf (declarationStretches names spec) =
      textsAt .java 0 (docFragments spec.doc) ++
        textOf (declarationStretches names (uncommented spec)) := by
  have none : ofCode (textsAt .java 0 (docFragments (uncommented spec).doc)) = ofCode "" := rfl
  rw [declarationStretches, declarationStretches, none]
  simp only [List.cons_append, Stretch.textOf_cons]
  rw [show (ofCode "").text = "" from rfl, String.empty_append]
  rfl

/-- The lines of a comment at the outermost level are the comment, ended like a line. -/
theorem textsAt_docFragments (text : String) :
    textsAt .java 0 (docFragments (some text)) = commentAt .java 0 text ++ "\n" := by
  rw [docFragments, textsAt, Fragment.textAt, linesAt_javadocLines, List.replicate_zero,
    String.join_nil, String.empty_append, textsAt, String.append_empty]

/-- The comment stands between the imports and the declaration. -/
theorem classText_of_doc {spec : ClassSpec} {text : String} (doc : spec.doc = some text) :
    classText spec =
      headerOf spec ++ commentAt .java 0 text ++ "\n" ++ declarationOf spec := by
  rw [classText_eq_textOf, stretches, List.append_assoc, Stretch.textOf_append,
    Stretch.textOf_append, textOf_declarationStretches, doc, textsAt_docFragments, headerOf,
    declarationOf, Stretch.textOf_append]
  simp only [String.append_assoc]

/-- What is written for a comment is one comment exactly if its text does not end a comment, whatever
the indentation. So the comment of an entity is skipped as a whole, and leaves the file as it would be
without a description, exactly if the description does not end a comment. -/
theorem description_is_comment_iff (writer : Writer) (text : String) :
    writer.javadoc text =
      writer.raw (writer.margin ++ commentAt writer.indent writer.level text ++ "\n") ∧
    (∀ rest, behindComment (commentAt writer.indent writer.level text ++ rest) = some rest ↔
      ¬ Closes text.toList) ∧
    ∀ (variant : Variant) (object : BusinessObject) (spec : ClassSpec),
      object.description = some text → entityClass variant object = .ok spec →
      classText (uncommented spec) = headerOf spec ++ declarationOf spec ∧
      classText spec = headerOf spec ++ commentAt .java 0 text ++ "\n" ++ declarationOf spec ∧
      (behindComment (commentAt .java 0 text ++ "\n" ++ declarationOf spec) =
          some ("\n" ++ declarationOf spec) ↔
        ¬ Closes text.toList) := by
  refine ⟨Layout.javadoc_eq_comment writer text, behindComment_commentAt_iff, ?_⟩
  intro variant object spec described made
  have doc : spec.doc = some text := (doc_entityClass made).trans described
  refine ⟨classText_uncommented spec, classText_of_doc doc, ?_⟩
  rw [String.append_assoc]
  exact behindComment_commentAt_iff _

/-- An object whose description has stars and slashes, but no star before a slash. -/
def rated : BusinessObject :=
  ⟨"org.acme.Hotel", some "Up to *****\n/ night, taxes **included**  ", [], [], []⟩

theorem description_is_comment_rated :
    ∃ spec, entityClass .client rated = .ok spec ∧
      classText spec = headerOf spec ++
        commentAt .java 0 "Up to *****\n/ night, taxes **included**  " ++ "\n" ++
          declarationOf spec ∧
      behindComment (commentAt .java 0 "Up to *****\n/ night, taxes **included**  " ++ "\n" ++
          declarationOf spec) = some ("\n" ++ declarationOf spec) := by
  obtain ⟨spec, made⟩ : ∃ spec, entityClass .client rated = .ok spec := ⟨_, rfl⟩
  obtain ⟨-, -, entities⟩ := description_is_comment_iff (Writer.start .java)
    "Up to *****\n/ night, taxes **included**  "
  obtain ⟨-, written, skipped⟩ := entities .client rated spec rfl made
  exact ⟨spec, made, written, skipped.2 (by decide)⟩

/-- An object whose description ends a comment. -/
def ranged : BusinessObject :=
  ⟨"org.acme.Report", some "Kept in logs/*/daily/", [], [], []⟩

/-- The end of the description stands outside of the comment, before the declaration. -/
theorem description_leaks :
    ∃ spec, entityClass .server ranged = .ok spec ∧
      classText spec = headerOf spec ++ commentAt .java 0 "Kept in logs/*/daily/" ++ "\n" ++
        declarationOf spec ∧
      behindComment (commentAt .java 0 "Kept in logs/*/daily/" ++ "\n" ++ declarationOf spec) =
        some ("daily/\n */\n" ++ declarationOf spec) := by
  obtain ⟨spec, made⟩ : ∃ spec, entityClass .server ranged = .ok spec := ⟨_, rfl⟩
  refine ⟨spec, made, classText_of_doc (doc_entityClass made), ?_⟩
  exact behindComment_append (by decide) (declarationOf spec)

end EntityGen.Java
