/-
  Proofs/Blueprint/Settings.lean --- attributes set one after the other.

  Source: the specification, section 3 (metadata tags: named, attributed markers).

  The attributes of a tag that is made by setting attributes: each name stands once, where
  it was first set, with the value that it was last set to. Setting an attribute leaves
  every other one its value and its place.
-/
import EntityGen.Blueprint.Tag
import EntityGen.Proofs.FirstOccurrences

set_option autoImplicit false

namespace EntityGen.Blueprint

/-! ## One setting -/

namespace Tag

/-- Where no name occurs twice, setting an attribute replaces the value under its name and nothing
else, or adds an attribute at the end. -/
theorem setIn_eq (name : String) (value : TagValue) {attributes : List (String × TagValue)}
    (apart : (attributes.map Prod.fst).Nodup) :
    setIn name value attributes =
      attributes.map (fun entry => if entry.1 = name then (name, value) else entry) ++
        if name ∈ attributes.map Prod.fst then [] else [(name, value)] := by
  induction attributes with
  | nil => rfl
  | cons first rest ih =>
    obtain ⟨key, old⟩ := first
    obtain ⟨fresh, apart⟩ := List.nodup_cons.1 apart
    by_cases same : key = name
    · subst same
      have others :
          rest.map (fun entry => if entry.1 = key then (key, value) else entry) = rest := by
        conv_rhs => rw [← List.map_id rest]
        refine List.map_congr_left fun entry mem => if_neg fun equal => ?_
        have met : entry.1 ∈ rest.map Prod.fst := List.mem_map_of_mem mem
        rw [equal] at met
        exact fresh met
      simp [setIn, others]
    · have later : name ∈ ((key, old) :: rest).map Prod.fst ↔ name ∈ rest.map Prod.fst := by
        rw [List.map_cons, List.mem_cons, or_iff_right (Ne.symm same)]
      simp only [later]
      simp [setIn, same, ih apart]

end Tag

/-! ## Settings -/

/-- One setting of an attribute. -/
inductive Setting where
  /-- the attribute of this name gets the value, which may be a text, a flag, a number or another -/
  | named (name : String) (value : TagValue)
  /-- the attribute that needs no name when it is the only one gets the value -/
  | unnamed (value : TagValue)

namespace Setting

/-- The name of the attribute that is set. -/
def name : Setting → String
  | named name _ => name
  | unnamed _ => valueAttribute

/-- The value that the attribute is set to. -/
def value : Setting → TagValue
  | named _ value => value
  | unnamed value => value

/-- The tag after the setting. -/
def apply (tag : Tag) : Setting → Tag
  | named name value => tag.set name value
  | unnamed value => tag.setValue value

theorem apply_eq (tag : Tag) (setting : Setting) :
    setting.apply tag = tag.set setting.name setting.value := by
  cases setting with
  | named name value => rfl
  | unnamed value => rfl

theorem kind_apply (tag : Tag) (setting : Setting) : (setting.apply tag).kind = tag.kind := by
  rw [apply_eq]
  rfl

/-- The value that the last of the settings gives to a name. -/
def lastValue? (settings : List Setting) (name : String) : Option TagValue :=
  (settings.filter fun setting => setting.name == name).getLast?.map Setting.value

theorem lastValue?_concat (settings : List Setting) (setting : Setting) (name : String) :
    lastValue? (settings ++ [setting]) name =
      if name = setting.name then some setting.value else lastValue? settings name := by
  rw [lastValue?, List.filter_append]
  by_cases same : name = setting.name
  · simp [same]
  · simp [same, Ne.symm same, lastValue?]

theorem lastValue?_eq_none_iff {settings : List Setting} {name : String} :
    lastValue? settings name = none ↔ name ∉ settings.map Setting.name := by
  rw [lastValue?, Option.map_eq_none_iff, List.getLast?_eq_none_iff, List.filter_eq_nil_iff,
    List.mem_map, not_exists]
  simp only [beq_iff_eq, not_and]

end Setting

namespace Tag

theorem text?_eq_some_iff {tag : Tag} {name text : String} :
    tag.text? name = some text ↔ tag.get? name = some (.text text) := by
  unfold text?
  split
  case h_1 found => simp [found]
  case h_2 other =>
    simp only [false_iff, reduceCtorEq]
    exact other text

/-- The tag that the settings make of one without attributes. -/
def ofSettings (kind : TagKind) (settings : List Setting) : Tag :=
  settings.foldl Setting.apply (ofKind kind)

variable {kind : TagKind}

theorem ofSettings_concat (settings : List Setting) (setting : Setting) :
    ofSettings kind (settings ++ [setting]) = setting.apply (ofSettings kind settings) :=
  List.foldl_concat _ _ _ _

theorem kind_ofSettings (settings : List Setting) : (ofSettings kind settings).kind = kind := by
  induction settings using List.reverseRecOn with
  | nil => rfl
  | append_singleton rest setting ih => rw [ofSettings_concat, Setting.kind_apply, ih]

/-- Names stand where they were first set. -/
theorem names_ofSettings (settings : List Setting) :
    (ofSettings kind settings).attributes.map Prod.fst =
      (settings.map Setting.name).eraseDups := by
  induction settings using List.reverseRecOn with
  | nil => rfl
  | append_singleton rest setting ih =>
    rw [ofSettings_concat, Setting.apply_eq, set, attributes, names_setIn, ih, List.map_append,
      List.map_singleton, eraseDups_concat]
    simp only [List.mem_eraseDups]

/-- A name has the value that it was last set to. -/
theorem get?_ofSettings (settings : List Setting) (name : String) :
    (ofSettings kind settings).get? name = Setting.lastValue? settings name := by
  induction settings using List.reverseRecOn with
  | nil => rfl
  | append_singleton rest setting ih =>
    rw [ofSettings_concat, Setting.apply_eq, Setting.lastValue?_concat, ← ih]
    exact lookup_setIn _ _ _ _

/-! ## Main result -/

/-- Whatever is set on a tag without attributes, in whatever order and however often: its kind
stays, no name occurs twice, and names stand in the order in which they were first set. A name has the
value that it was last set to and none if it was never set, and what is read as a text is that value
if it is a text. One more setting gives its name the value and leaves to every other name its own;
each attribute stays in its place, and only a new name adds one, at the end. -/
theorem last_setting_wins (kind : TagKind) (settings : List Setting) :
    (ofSettings kind settings).kind = kind ∧
    ((ofSettings kind settings).attributes.map Prod.fst).Nodup ∧
    (ofSettings kind settings).attributes.map Prod.fst =
      (settings.map Setting.name).eraseDups ∧
    (∀ name, (ofSettings kind settings).get? name = Setting.lastValue? settings name) ∧
    (∀ name, (ofSettings kind settings).get? name = none ↔ name ∉ settings.map Setting.name) ∧
    (∀ name text, (ofSettings kind settings).text? name = some text ↔
      Setting.lastValue? settings name = some (.text text)) ∧
    ∀ setting : Setting,
      (∀ name, (setting.apply (ofSettings kind settings)).get? name =
        if name = setting.name then some setting.value
        else (ofSettings kind settings).get? name) ∧
      (setting.apply (ofSettings kind settings)).attributes =
        (ofSettings kind settings).attributes.map (fun entry =>
          if entry.1 = setting.name then (setting.name, setting.value) else entry) ++
        if setting.name ∈ settings.map Setting.name then []
        else [(setting.name, setting.value)] := by
  have names : (ofSettings kind settings).attributes.map Prod.fst =
      (settings.map Setting.name).eraseDups := names_ofSettings settings
  have apart : ((ofSettings kind settings).attributes.map Prod.fst).Nodup := by
    rw [names]
    exact nodup_eraseDups _
  refine ⟨kind_ofSettings settings, apart, names, get?_ofSettings settings, fun name => ?_,
    fun name text => ?_, fun setting => ⟨fun name => ?_, ?_⟩⟩
  · rw [get?_ofSettings, Setting.lastValue?_eq_none_iff]
  · rw [text?_eq_some_iff, get?_ofSettings]
  · rw [Setting.apply_eq]
    exact lookup_setIn _ _ _ _
  · rw [Setting.apply_eq, set, attributes, setIn_eq _ _ apart, names]
    simp only [List.mem_eraseDups]

end Tag

end EntityGen.Blueprint
