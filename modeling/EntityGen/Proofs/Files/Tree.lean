/-
  Proofs/Files/Tree.lean --- directory trees keep their word.

  Source: the specification, section 4.5; the laws are those of `Proofs/Files/Lawful.lean`.

  The place that a path leads to in a tree is told by its components alone; what is in the
  tree only decides whether it can be reached. With files told from temporary files by the
  last name of their places, a directory tree is a lawful volume.
-/
import EntityGen.Files.Tree
import EntityGen.Proofs.Files.Inside
import EntityGen.Proofs.Files.Lawful

set_option autoImplicit false

namespace EntityGen.Files

/-! ## Places of paths -/

/-- A last piece that means something is the last component. -/
theorem Path.exists_components_eq_concat {path : String} {component : Component}
    (meant : (segments path).getLast?.bind inner? = some component) :
    ∃ before, components path = before ++ [component] := by
  obtain ⟨first, rest, pieces⟩ := exists_segments_eq_cons path
  rw [components_eq pieces]
  rw [pieces] at meant
  obtain rfl | ⟨inner, last, rfl⟩ := List.eq_nil_or_concat' rest
  · have alone : inner? first = some component := meant
    have same : first? first false = inner? first := by
      unfold inner? at alone ⊢
      split at alone
      · cases alone
      · rename_i idle
        rw [Bool.or_eq_true, not_or] at idle
        simp [first?, inner?, idle.1, idle.2]
    refine ⟨[], ?_⟩
    rw [List.isEmpty_nil, Bool.not_true, same, alone]
    rfl
  · have ended : inner? last = some component := by
      rwa [← List.cons_append, List.getLast?_concat] at meant
    refine ⟨(first? first !(inner ++ [last]).isEmpty).toList ++ inner.filterMap inner?, ?_⟩
    rw [List.filterMap_append, ← List.append_assoc, List.filterMap_cons_some ended]
    rfl

namespace Tree

variable {tree : Tree} {place found : Place}

/-- The place that a component leads to from a place. The root is its own parent. -/
def next (place : Place) : Path.Component → Place
  | .root => []
  | .current => place
  | .parent => place.dropLast
  | .named name => place ++ [.given name]

/-- The place that a path leads to from the working directory. -/
def placeOf (path : String) : Place :=
  (Path.components path).foldl next workingPlace

theorem eq_next_of_follow {component : Path.Component}
    (follows : follow place component = some found) : found = next place component := by
  cases component with
  | named name =>
    rw [follow] at follows
    split at follows
    · exact (Option.some.inj follows).symm
    · cases follows
  | _ => exact (Option.some.inj follows).symm

theorem eq_foldl_of_walk {components : List Path.Component}
    (walks : tree.walk place components = some found) : found = components.foldl next place := by
  induction components generalizing place with
  | nil => exact (Option.some.inj walks).symm
  | cons component rest ih =>
    unfold walk at walks
    split at walks
    · rename_i follows
      split at walks
      · rw [List.foldl_cons, ← eq_next_of_follow follows]
        exact ih walks
      · cases walks
    · cases walks

/-- The place of a path is the one it leads to, and it ends with a name that was asked for. -/
theorem eq_placeOf_of_place? {path : String} (leads : tree.place? path = some place) :
    place = placeOf path ∧ ∃ directory name, place = directory ++ [.given name] := by
  unfold place? at leads
  split at leads
  · split at leads
    · rename_i name meant
      split at leads
      · obtain ⟨before, components⟩ := Path.exists_components_eq_concat meant
        rw [components, List.dropLast_concat, Option.map_eq_some_iff] at leads
        obtain ⟨directory, walks, rfl⟩ := leads
        refine ⟨?_, directory, name, rfl⟩
        rw [placeOf, components, List.foldl_append, ← eq_foldl_of_walk walks]
        rfl
      · cases leads
    · cases leads
  · cases leads

/-! ## Contents -/

theorem lookup_cons_eq {first : Place × TreeEntry} {rest : List (Place × TreeEntry)}
    {other : Place} : (first :: rest).lookup other =
      if other = first.1 then some first.2 else rest.lookup other := by
  rw [List.lookup_cons]
  by_cases hit : other = first.1
  · rw [beq_iff_eq.2 hit, if_pos hit]
  · rw [beq_false_of_ne hit, if_neg hit]

theorem lookup_putAt (entry : TreeEntry) (entries : List (Place × TreeEntry)) (other : Place) :
    (putAt place entry entries).lookup other =
      if other = place then some entry else entries.lookup other := by
  induction entries with
  | nil => rw [putAt, lookup_cons_eq]
  | cons first rest ih =>
    rw [putAt]
    split
    · rename_i hit
      simp only [lookup_cons_eq, hit]
      split <;> rfl
    · rename_i miss
      rw [lookup_cons_eq, lookup_cons_eq, ih]
      split
      · rename_i hit
        rw [if_neg (hit ▸ miss)]
      · rfl

theorem lookup_filter_ne (entries : List (Place × TreeEntry)) (other : Place) :
    (entries.filter fun entry => entry.1 != place).lookup other =
      if other = place then none else entries.lookup other := by
  induction entries with
  | nil => simp
  | cons first rest ih =>
    rw [List.filter_cons, lookup_cons_eq]
    split
    · rename_i miss
      rw [lookup_cons_eq, ih]
      split
      · rename_i hit
        rw [if_neg (hit ▸ bne_iff_ne.1 miss)]
      · rfl
    · rename_i hit
      rw [ih]
      have same : first.1 = place := by simpa using hit
      rw [same]
      split <;> rfl

theorem entry?_put (entry : TreeEntry) (there : place ≠ []) (other : Place) :
    entry? (tree.put place entry) other =
      if other = place then some entry else tree.entry? other := by
  unfold entry? put
  split
  · rename_i root
    rw [if_neg (List.isEmpty_iff.1 root ▸ Ne.symm there)]
  · exact lookup_putAt entry tree.entries other

theorem entry?_erase (there : place ≠ []) (other : Place) :
    entry? (tree.erase place) other = if other = place then none else tree.entry? other := by
  unfold entry? erase
  split
  · rename_i root
    rw [if_neg (List.isEmpty_iff.1 root ▸ Ne.symm there)]
  · exact lookup_filter_ne tree.entries other

/-- The content of the file at a place. -/
def content? (tree : Tree) (place : Place) : Option ByteArray :=
  match tree.entry? place with
  | some (.file content _) => some content
  | _ => none

theorem exists_mode_of_content? {content : ByteArray} (there : tree.content? place = some content) :
    ∃ mode, tree.entry? place = some (.file content mode) := by
  unfold content? at there
  split at there
  · rename_i found
    cases there
    exact ⟨_, found⟩
  · cases there

theorem content?_put_file (tree : Tree) (content : ByteArray) (mode : Nat) (there : place ≠ []) :
    (tree.put place (.file content mode)).content? =
      Function.update tree.content? place (some content) := by
  funext other
  rw [content?, entry?_put _ there]
  by_cases hit : other = place
  · rw [if_pos hit, hit, Function.update_self]
  · rw [if_neg hit, Function.update_of_ne hit]
    rfl

theorem content?_erase (tree : Tree) (there : place ≠ []) :
    (tree.erase place).content? = Function.update tree.content? place none := by
  funext other
  rw [content?, entry?_erase there]
  by_cases hit : other = place
  · rw [if_pos hit, hit, Function.update_self]
  · rw [if_neg hit, Function.update_of_ne hit]
    rfl

/-- A new directory leaves the files as they are. -/
theorem content?_put_directory (new : tree.entry? place = none) :
    (tree.put place .directory).content? = tree.content? := by
  have there : place ≠ [] := by
    rintro rfl
    cases new
  funext other
  rw [content?, entry?_put _ there]
  by_cases hit : other = place
  · rw [if_pos hit, hit, content?, new]
  · rw [if_neg hit]
    rfl

theorem content?_makeAlong {components : List Path.Component} {made : Tree} {done : Bool}
    (run : tree.makeAlong place components = (done, made)) :
    made.content? = tree.content? ∧ made.nextTemporary = tree.nextTemporary := by
  induction components generalizing place tree with
  | nil =>
    cases run
    exact ⟨rfl, rfl⟩
  | cons component rest ih =>
    rw [makeAlong] at run
    split at run
    · cases run
      exact ⟨rfl, rfl⟩
    · split at run
      · exact ih run
      · cases run
        exact ⟨rfl, rfl⟩
      · rename_i new
        obtain ⟨same, next⟩ := ih run
        exact ⟨same.trans (content?_put_directory new), next⟩

/-! ## Files and temporary files -/

/-- The place is that of a temporary file. -/
def isTemporary (place : Place) : Bool :=
  match place.getLast? with
  | some (.temporary _) => true
  | _ => false

/-- Contents at places, with those of temporary files told from the others. -/
def parted (content? : Place → Option ByteArray) : Contents Place Place where
  file? place := if isTemporary place then none else content? place
  temporary? place := if isTemporary place then content? place else none

section Parted

variable {content? : Place → Option ByteArray}

/-- What changes in a temporary file changes nothing else. -/
theorem parted_update_temporary (temporary : isTemporary place = true) (left : Option ByteArray) :
    parted (Function.update content? place left) =
      { parted content? with
        temporary? := Function.update (parted content?).temporary? place left } := by
  ext1
  · funext other
    by_cases hit : other = place
    · simp [parted, hit, temporary]
    · simp [parted, hit]
  · funext other
    by_cases hit : other = place
    · simp [parted, hit, temporary]
    · simp [parted, hit]

theorem parted_update_file (regular : isTemporary place = false) (content : ByteArray) :
    parted (Function.update content? place (some content)) =
      (parted content?).putFile place content := by
  ext1
  · funext other
    by_cases hit : other = place
    · simp [parted, Contents.putFile, hit, regular]
    · simp [parted, Contents.putFile, hit]
  · funext other
    by_cases hit : other = place
    · simp [parted, Contents.putFile, hit, regular]
    · simp [parted, Contents.putFile, hit]

/-- A temporary file that is there is at a place of its own below the root. -/
theorem of_temporary?_ne_none (there : (parted content?).temporary? place ≠ none) :
    isTemporary place = true ∧ place ≠ [] ∧
      (parted content?).temporary? place = content? place := by
  by_cases temporary : isTemporary place = true
  · refine ⟨temporary, ?_, if_pos temporary⟩
    rintro rfl
    cases temporary
  · exact absurd (if_neg temporary) there

end Parted

/-- A directory tree as it is seen. The numbers of its temporary files are in use, and none of them
is given to a new one. -/
def view : View Tree Place Place where
  place := placeOf
  contents tree := parted tree.content?
  Valid tree := ∀ place number, place.getLast? = some (.temporary number) →
    tree.content? place ≠ none → number < tree.nextTemporary

/-- A tree stays valid where the content of one place changes, unless the place is that of a
temporary file whose number is not in use. -/
theorem valid_of_update {changed : Tree} {left : Option ByteArray} (valid : view.Valid tree)
    (contents : changed.content? = Function.update tree.content? place left)
    (numbers : tree.nextTemporary ≤ changed.nextTemporary)
    (used : left ≠ none → ∀ number, place.getLast? = some (.temporary number) →
      number < changed.nextTemporary) : view.Valid changed := by
  intro other number temporary there
  rw [contents] at there
  by_cases hit : other = place
  · subst hit
    rw [Function.update_self] at there
    exact used there number temporary
  · rw [Function.update_of_ne hit] at there
    exact Nat.lt_of_lt_of_le (valid other number temporary there) numbers

/-! ## Operations -/

section Operations

variable {path : String} {content : ByteArray} {made : Tree}

theorem makeDirectories_effect {done : Bool} (valid : view.Valid tree)
    (run : tree.makeDirectories path = (done, made)) :
    view.Valid made ∧ view.contents made = view.contents tree := by
  have same : made.content? = tree.content? ∧ made.nextTemporary = tree.nextTemporary := by
    unfold makeDirectories at run
    split at run
    · exact content?_makeAlong run
    · cases run
      exact ⟨rfl, rfl⟩
  refine ⟨?_, congrArg parted same.1⟩
  intro place number temporary there
  rw [same.2]
  exact valid place number temporary (same.1 ▸ there)

/-- A new temporary file has the next number, which no other one has. -/
theorem createTemporary_effect (valid : view.Valid tree)
    (run : tree.createTemporary path = (some place, made)) :
    view.Valid made ∧ (view.contents tree).temporary? place = none ∧
      view.contents made = (view.contents tree).putTemporary place .empty := by
  unfold createTemporary at run
  split at run
  · rename_i directory _
    split at run
    · cases run
      have last : (directory ++ [EntryName.temporary tree.nextTemporary]).getLast? =
          some (.temporary tree.nextTemporary) := List.getLast?_concat
      have temporary : isTemporary (directory ++ [.temporary tree.nextTemporary]) = true := by
        rw [isTemporary, last]
      have contents := content?_put_file tree .empty ownerMode
        (List.concat_ne_nil (EntryName.temporary tree.nextTemporary) directory)
      refine ⟨valid_of_update valid contents (Nat.le_succ _) ?_, ?_, ?_⟩
      · intro _ number same
        rw [last] at same
        cases same
        exact Nat.lt_succ_self _
      -- A file of that number would have it in use already.
      · by_contra there
        obtain ⟨-, -, same⟩ := of_temporary?_ne_none there
        exact absurd (valid _ _ last (same ▸ there)) (Nat.lt_irrefl _)
      · exact (congrArg parted contents).trans (parted_update_temporary temporary _)
    · cases run
  · cases run

theorem createTemporary_none (run : tree.createTemporary path = (none, made)) : made = tree := by
  unfold createTemporary at run
  split at run
  · split at run
    · cases run
    · cases run
      rfl
  · cases run
    rfl

/-- A temporary file gets another content. -/
theorem put_temporary_effect (valid : view.Valid tree)
    (live : (view.contents tree).temporary? place ≠ none) (content : ByteArray) (mode : Nat) :
    view.Valid (tree.put place (.file content mode)) ∧
      view.contents (tree.put place (.file content mode)) =
        (view.contents tree).putTemporary place content := by
  obtain ⟨temporary, there, same⟩ := of_temporary?_ne_none live
  have contents := content?_put_file tree content mode there
  refine ⟨valid_of_update valid contents (Nat.le_refl _) ?_, ?_⟩
  · intro _ number last
    exact valid place number last (same ▸ live)
  · exact (congrArg parted contents).trans (parted_update_temporary temporary _)

/-- A temporary file is gone. -/
theorem erase_effect (valid : view.Valid tree)
    (live : (view.contents tree).temporary? place ≠ none) :
    view.Valid (tree.erase place) ∧
      view.contents (tree.erase place) = (view.contents tree).dropTemporary place := by
  obtain ⟨temporary, there, -⟩ := of_temporary?_ne_none live
  have contents := content?_erase tree there
  refine ⟨valid_of_update valid contents (Nat.le_refl _) fun left => absurd rfl left, ?_⟩
  exact (congrArg parted contents).trans (parted_update_temporary temporary _)

/-- A file is put under a name that was asked for. -/
theorem put_given_effect (valid : view.Valid tree) {directory : Place} {name : String}
    (given : place = directory ++ [.given name]) (content : ByteArray) (mode : Nat) :
    view.Valid (tree.put place (.file content mode)) ∧
      view.contents (tree.put place (.file content mode)) =
        (view.contents tree).putFile place content := by
  have last : place.getLast? = some (.given name) := by rw [given, List.getLast?_concat]
  have regular : isTemporary place = false := by rw [isTemporary, last]
  have there : place ≠ [] := given ▸ List.concat_ne_nil _ _
  have contents := content?_put_file tree content mode there
  refine ⟨valid_of_update valid contents (Nat.le_refl _) ?_, ?_⟩
  · intro _ number same
    rw [last] at same
    cases same
  · exact (congrArg parted contents).trans (parted_update_file regular content)

theorem moveTo_effect {done : Bool} (valid : view.Valid tree)
    (held : (view.contents tree).temporary? place = some content) :
    tree.moveTo place path = (done, made) →
    view.Valid made ∧ view.contents made = if done then
      ((view.contents tree).dropTemporary place).putFile (placeOf path) content
    else view.contents tree := by
  intro run
  have live : (view.contents tree).temporary? place ≠ none := held ▸ Option.some_ne_none content
  obtain ⟨-, -, same⟩ := of_temporary?_ne_none live
  obtain ⟨mode, found⟩ := exists_mode_of_content? (same.symm.trans held)
  unfold moveTo at run
  rw [found] at run
  cases leads : tree.place? path with
  | none =>
    rw [leads] at run
    cases run
    exact ⟨valid, rfl⟩
  | some target =>
    obtain ⟨rfl, directory, name, given⟩ := eq_placeOf_of_place? leads
    rw [leads] at run
    dsimp only at run
    split at run
    · cases run
      exact ⟨valid, rfl⟩
    · cases run
      obtain ⟨valid₁, gone⟩ := erase_effect valid live
      obtain ⟨valid₂, written⟩ := put_given_effect valid₁ given content mode
      exact ⟨valid₂, written.trans (congrArg (Contents.putFile · _ content) gone)⟩

end Operations

/-- A directory tree keeps its word. -/
theorem lawful_view : view.Lawful treeVolume where
  makeDirectories valid run := makeDirectories_effect valid run
  createTemporary {_ _ _ made} valid run := by
    cases made with
    | some handle => exact createTemporary_effect valid run
    | none =>
      cases createTemporary_none run
      exact ⟨valid, rfl⟩
  fill {s _ handle text _} valid live run := by
    cases run
    obtain ⟨valid', written⟩ := put_temporary_effect valid live text.toUTF8 publicMode
    exact ⟨valid', text.toUTF8, written, fun _ => rfl⟩
  moveTo valid held run := moveTo_effect valid held run
  discard valid live run := by
    cases run
    exact erase_effect valid live

/-- A working directory without entries has no files. -/
theorem valid_empty : view.Valid empty := by
  intro place number _ there
  have noFile : empty.content? place = none := by
    unfold content? entry? empty
    split
    · rename_i found
      split at found
      · cases found
      · rw [lookup_cons_eq, lookup_cons_eq] at found
        split at found
        · cases found
        · split at found
          · cases found
          · cases found
    · rfl
  exact absurd noFile there

end Tree

end EntityGen.Files
