/-
  Proofs/Java/Stretches.lean --- stretches of a file.

  Source: `Java/ClassText.lean` and `Java/CompilationUnit.lean`, part by part.

  The text of the file of a class, cut into stretches that say where they come from:
  an import, an annotation with all its lines, the clause of the interfaces, or any other
  code. Put one after the other they are the text of the file.

  The stretches are what the comparison of the two variants in `Proofs/Java/Variants.lean`
  is about.
-/
import EntityGen.Proofs.Java.Settled
import EntityGen.Proofs.Layout.Writer

set_option autoImplicit false

namespace EntityGen.Java

open EntityGen.Blueprint (ClassSpec Member Method Tag)
open EntityGen.Layout (Fragment Writer lineAt linesAt)
open EntityGen.Layout.Fragment (textsAt)

/-! ## Stretches -/

/-- Where a stretch of a file comes from. -/
inductive Origin where
  /-- none of the others -/
  | code
  /-- the line that imports a type -/
  | importOf (name : String)
  /-- the lines of an annotation -/
  | annotationOf (tag : Tag)
  /-- the clause that lists the interfaces -/
  | interfaces

/-- A part of the text of a file. -/
structure Stretch where
  origin : Origin
  text : String

namespace Stretch

/-- A stretch of code. -/
def ofCode (text : String) : Stretch :=
  ⟨.code, text⟩

/-- The text of stretches one after the other. -/
def textOf (stretches : List Stretch) : String :=
  String.join (stretches.map Stretch.text)

@[simp] theorem textOf_nil : textOf [] = "" := rfl

@[simp] theorem textOf_cons (stretch : Stretch) (rest : List Stretch) :
    textOf (stretch :: rest) = stretch.text ++ textOf rest := by
  rw [textOf, List.map_cons, String.join_cons, ← textOf]

@[simp] theorem textOf_append (stretches more : List Stretch) :
    textOf (stretches ++ more) = textOf stretches ++ textOf more := by
  rw [textOf, List.map_append, String.join_append, ← textOf, ← textOf]

theorem textOf_ofCode (text : String) : textOf [ofCode text] = text := by
  rw [textOf_cons, textOf_nil, String.append_empty]
  rfl

theorem textOf_flatMap {α : Type} (parts : α → List Stretch) (items : List α) :
    textOf (items.flatMap parts) = String.join (items.map fun item => textOf (parts item)) := by
  induction items with
  | nil => rfl
  | cons item rest ih => rw [List.flatMap_cons, textOf_append, ih, List.map_cons, String.join_cons]

end Stretch

open Stretch (textOf ofCode)

/-! ## Parts of a file -/

section Parts

variable (names : Resolver)

/-- The lines that import types. -/
def importStretches : List Stretch :=
  names.importedNames.map fun name => ⟨.importOf name, lineAt .java 0 s!"import {name};"⟩

/-- Annotations one after the other, each with all its lines. -/
def tagStretches (level : Nat) (tags : List Tag) : List Stretch :=
  tags.map fun tag => ⟨.annotationOf tag, linesAt .java level (annotationLines names tag)⟩

/-- A field behind an empty line. -/
def memberStretches (member : Member) : List Stretch :=
  ofCode "\n" :: tagStretches names 1 member.tags ++
    [ofCode (textsAt .java 1 (names.answer (memberFragments (bareMember member))))]

/-- A method behind an empty line. -/
def methodStretches (simpleName : String) (method : Method) : List Stretch :=
  ofCode ("\n" ++ textsAt .java 1 (docFragments method.doc)) ::
    tagStretches names 1 method.tags ++
    [ofCode (textsAt .java 1 (names.answer (methodFragments simpleName (bareMethod method))))]

/-- The clause that lists the interfaces, if there are any. -/
def interfaceStretches (spec : ClassSpec) : List Stretch :=
  let written := spec.interfaces.map fun name => names.answer (Resolver.resolve name)
  let keyword := if spec.isInterface then "extends" else "implements"
  if spec.interfaces.isEmpty then []
  else [⟨.interfaces, s!" {keyword} " ++ Text.join ", " written⟩]

/-- The declaration of a class with its comment and its annotations. -/
def declarationStretches (spec : ClassSpec) : List Stretch :=
  ofCode (textsAt .java 0 (docFragments spec.doc)) :: tagStretches names 0 spec.tags ++
    ofCode (declarationText spec []) :: interfaceStretches names spec ++ [ofCode " \x7b\n"]

/-- The fields and the methods of a class, up to the closing brace. -/
def bodyStretches (spec : ClassSpec) : List Stretch :=
  spec.fields.flatMap (memberStretches names) ++
    spec.methods.flatMap (methodStretches names spec.simpleName) ++ [ofCode "\x7d\n"]

/-- The package and the imports, each with an empty line behind it. -/
def headerStretches (spec : ClassSpec) : List Stretch :=
  (if spec.packageName.isEmpty then [] else [ofCode s!"package {spec.packageName};\n\n"]) ++
    (if names.importedNames.isEmpty then [] else importStretches names ++ [ofCode "\n"])

end Parts

/-- The file of a class in stretches. -/
def stretches (spec : ClassSpec) : List Stretch :=
  headerStretches (settled spec) spec ++ declarationStretches (settled spec) spec ++
    bodyStretches (settled spec) spec

/-! ## Texts of stretches -/

variable {names : Resolver}

theorem textOf_importStretches (names : Resolver) :
    textOf (importStretches names) =
      linesAt .java 0 (names.importedNames.map fun name => s!"import {name};") := by
  rw [textOf, importStretches, linesAt, List.map_map, List.map_map]
  rfl

theorem textOf_tagStretches (level : Nat) (tags : List Tag) :
    textOf (tagStretches names level tags) =
      textsAt .java level
        ((tags.flatMap (annotationLines names)).map Fragment.line) := by
  rw [Layout.Fragment.textsAt_lines]
  induction tags with
  | nil => rfl
  | cons tag rest ih =>
    rw [List.flatMap_cons, Layout.linesAt_append, ← ih]
    exact Stretch.textOf_cons _ _

theorem textOf_memberStretches {member : Member} (known : names.Knows (fieldMentions member)) :
    textOf (memberStretches names member) =
      textsAt .java 1 (.blank :: names.answer (memberFragments member)) := by
  rw [answer_memberFragments known, textsAt, Layout.Fragment.textsAt_append,
    ← textOf_tagStretches]
  simp [memberStretches, ofCode, Layout.Fragment.textAt]

theorem textOf_methodStretches {simpleName : String} {method : Method}
    (known : names.Knows (methodMentions method)) :
    textOf (methodStretches names simpleName method) =
      textsAt .java 1 (.blank :: names.answer (methodFragments simpleName method)) := by
  rw [answer_methodFragments known, textsAt, Layout.Fragment.textsAt_append,
    Layout.Fragment.textsAt_append, ← textOf_tagStretches]
  simp [methodStretches, ofCode, Layout.Fragment.textAt, String.append_assoc]

theorem textOf_declaration (names : Resolver) (spec : ClassSpec) :
    declarationText spec [] ++ textOf (interfaceStretches names spec) =
      declarationText spec
        (spec.interfaces.map fun name => names.answer (Resolver.resolve name)) := by
  unfold declarationText interfaceStretches
  cases spec.interfaces with
  | nil => simp
  | cons first rest => simp

/-- The stretches of members are their texts, one level deep. -/
theorem textOf_flatMap_members {α : Type} {parts : α → List Stretch} {items : List α}
    {fragments : α → List Fragment}
    (each : ∀ item ∈ items, textOf (parts item) = textsAt .java 1 (.blank :: fragments item)) :
    textOf (items.flatMap parts) =
      textsAt .java 1 (items.flatMap fun item => .blank :: fragments item) := by
  rw [Stretch.textOf_flatMap, Layout.Fragment.textsAt_flatMap]
  exact congrArg _ (List.map_congr_left each)

/-- A block at the outermost level. -/
theorem textsAt_block (header : String) (body : List Fragment) :
    textsAt .java 0 [block header body] =
      header ++ " \x7b\n" ++ textsAt .java 1 body ++ "\x7d\n" := by
  have line : ∀ text, lineAt .java 0 text = text ++ "\n" := by
    intro text
    rw [lineAt, List.replicate_zero, String.join_nil, String.empty_append]
  simp only [block, closingBrace, textsAt, Layout.Fragment.textAt, Option.toList_some,
    Layout.linesAt_singleton, line, String.append_empty, String.append_assoc]
  rfl

theorem textOf_classStretches {spec : ClassSpec} (known : names.Knows (classMentions spec)) :
    textOf (declarationStretches names spec ++ bodyStretches names spec) =
      textsAt .java 0 (names.answer (classFragments spec)) := by
  have fields := textOf_flatMap_members fun member mem =>
    textOf_memberStretches (known.right.right.left.of_mem_flatMap mem)
  have methods : textOf (spec.methods.flatMap (methodStretches names spec.simpleName)) = _ :=
    textOf_flatMap_members fun method mem =>
      textOf_methodStretches (known.right.right.right.of_mem_flatMap mem)
  rw [answer_classFragments known, Layout.Fragment.textsAt_append,
    Layout.Fragment.textsAt_append, ← textOf_tagStretches, textsAt_block,
    ← textOf_declaration names spec, Layout.Fragment.textsAt_append, ← fields, ← methods]
  simp [declarationStretches, bodyStretches, ofCode, String.append_assoc]

/-! ## Files -/

/-- An empty line behind text. -/
theorem separate_eq_raw {writer : Writer} (written : writer.text.isEmpty = false) :
    CompilationUnit.separate writer = writer.raw "\n" := by
  rw [CompilationUnit.separate, written]
  rfl

/-- There is text where a line was written. -/
theorem isEmpty_text_line (writer : Writer) (text : String) :
    (writer.line text).text.isEmpty = false := by
  have ends : (writer.line text).text = writer.text ++ (writer.margin ++ text ++ "\n") := rfl
  simp [ends]

/-- An empty line comes behind the imports, of which the last ends the text with a line. -/
theorem separate_imports (writer : Writer) (first : String) (rest : List String) :
    CompilationUnit.separate
        ((first :: rest).foldl (fun writer name => writer.line s!"import {name};") writer) =
      (writer.raw (linesAt writer.indent writer.level
        ((first :: rest).map fun name => s!"import {name};"))).raw "\n" := by
  rw [Writer.foldl_line_eq_raw, separate_eq_raw]
  simp [Layout.linesAt_cons, lineAt, Writer.raw]

/-- The package and the imports with an empty line behind each. -/
theorem separate_header (packageName : String) (imports : List String)
    (bodies : List (List Fragment)) :
    CompilationUnit.separate (⟨packageName, imports, bodies⟩ : CompilationUnit).header =
      (Writer.start .java).raw
        ((if packageName.isEmpty then "" else s!"package {packageName};\n\n") ++
          (if imports.isEmpty then ""
            else linesAt .java 0 (imports.map fun name => s!"import {name};") ++ "\n")) := by
  have line : ∀ text, (Writer.start .java).line text = (Writer.start .java).raw (text ++ "\n") := by
    intro text
    rw [Writer.line_eq_raw]
    rfl
  have written := isEmpty_text_line (Writer.start .java) s!"package {packageName};"
  have ends : s!"package {packageName};" ++ "\n" ++ "\n" = s!"package {packageName};\n\n" := by
    rw [String.append_assoc, String.append_assoc]
    rfl
  unfold CompilationUnit.header
  cases packageName.isEmpty with
  | true =>
    cases imports with
    | nil => rfl
    | cons first rest =>
      have start : CompilationUnit.separate (Writer.start .java) = Writer.start .java := rfl
      simp only [if_true, List.isEmpty_cons, Bool.false_eq_true, if_false]
      rw [start, separate_imports, Writer.raw_raw, String.empty_append]
      rfl
  | false =>
    cases imports with
    | nil =>
      simp only [Bool.false_eq_true, if_false, List.isEmpty_nil, if_true]
      rw [separate_eq_raw written, line, Writer.raw_raw, String.append_empty, ends]
    | cons first rest =>
      simp only [List.isEmpty_cons, Bool.false_eq_true, if_false]
      rw [separate_eq_raw written, separate_imports, line, Writer.raw_raw, Writer.raw_raw,
        Writer.raw_raw, ← String.append_assoc, ends]
      rfl

/-- The text of a file with one body. -/
theorem text_compilationUnit (packageName : String) (imports : List String)
    (body : List Fragment) :
    (⟨packageName, imports, [body]⟩ : CompilationUnit).text =
      (if packageName.isEmpty then "" else s!"package {packageName};\n\n") ++
        (if imports.isEmpty then ""
          else linesAt .java 0 (imports.map fun name => s!"import {name};") ++ "\n") ++
        textsAt .java 0 body := by
  rw [CompilationUnit.text, List.foldl_cons, List.foldl_nil, separate_header,
    Writer.fragments_eq_raw, Writer.raw_raw]
  exact String.empty_append

theorem textOf_headerStretches (names : Resolver) (spec : ClassSpec) :
    textOf (headerStretches names spec) =
      (if spec.packageName.isEmpty then "" else s!"package {spec.packageName};\n\n") ++
        (if names.importedNames.isEmpty then "" else textOf (importStretches names) ++ "\n") := by
  rw [headerStretches, Stretch.textOf_append]
  congr 1
  · split
    · rfl
    · exact Stretch.textOf_ofCode _
  · split
    · rfl
    · rw [Stretch.textOf_append, Stretch.textOf_ofCode]

/-- The file of a class is its stretches one after the other. -/
theorem classText_eq_textOf (spec : ClassSpec) : classText spec = textOf (stretches spec) := by
  have known := knows_settled spec
  rw [classText, classUnit_eq_settled, text_compilationUnit, ← textOf_classStretches known,
    ← textOf_importStretches, ← textOf_headerStretches, stretches, List.append_assoc,
    ← Stretch.textOf_append]

end EntityGen.Java
