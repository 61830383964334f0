import AstView.Proofs.Settings.Loading
import Mathlib.Logic.Function.Basic

/-!
# Values that win

The settings are read out of one table, into which the layers are put one after the other and then
the overrides. As long as the names are lowercase names and no more than that, putting something in
is easy to follow: each of the four groups stays a table with its setting in it (`Holds`), a layer
changes the settings that it gives a value to and no others (`Holds.putLayer`), and an override
changes one (`Holds.set`). So a file that has only some settings of a group leaves the others alone.
What is read out in the end is what the four values convert to (`Holds.ofValue_eq_ok_iff`).
-/
namespace AstView

/-! ## Lowercase names -/

namespace Settings

/-- A character of lowercase names. -/
def isPlainChar (char : Char) : Bool :=
  (decide ('a' ≤ char) && decide (char ≤ 'z')) || (decide ('0' ≤ char) && decide (char ≤ '9'))
    || char == '_' || char == '-'

/-- A lowercase name: letters, digits, underscores and dashes, and at least one of them. -/
def Plain (name : String) : Prop := name.toList ≠ [] ∧ name.toList.all isPlainChar = true

instance : DecidablePred Plain := fun _ => inferInstanceAs (Decidable (_ ∧ _))

/-- The characters of lowercase names are some of those below 128 that are no capital letters. -/
theorem isPlainChar_code {char : Char} (plain : isPlainChar char = true) :
    char.toNat < 128 ∧ ¬(65 ≤ char.toNat ∧ char.toNat ≤ 90) := by
  simp only [isPlainChar, Bool.or_eq_true, Bool.and_eq_true, decide_eq_true_eq, beq_iff_eq,
    Char.le_def, UInt32.le_iff_toNat_le] at plain
  simp only [Char.toNat]
  obtain ((⟨least, greatest⟩ | ⟨least, greatest⟩) | rfl) | rfl := plain
  · change 97 ≤ _ at least
    change _ ≤ 122 at greatest
    omega
  · change 48 ≤ _ at least
    change _ ≤ 57 at greatest
    omega
  · decide
  · decide

/-- The characters of lowercase names can stand in paths. -/
theorem isNameChar_of_plain {char : Char} (plain : isPlainChar char = true) :
    KeyPath.isNameChar char = true := by
  simp only [isPlainChar, Bool.or_eq_true] at plain
  simp only [KeyPath.isNameChar, Bool.or_eq_true]
  obtain ((letter | digit) | under) | dash := plain
  · exact .inl (.inl (.inl (.inl (.inl letter))))
  · exact .inl (.inl (.inl (.inr digit)))
  · exact .inl (.inr under)
  · exact .inr dash

/-- A lowercase name is a path to what has that name. -/
theorem Plain.parse {name : String} (plain : Plain name) :
    KeyPath.parse name = some (.name name) := by
  obtain ⟨filled, chars⟩ := plain
  apply KeyPath.parse_name filled
  rw [List.all_eq_true] at chars ⊢
  exact fun char inside => isNameChar_of_plain (chars char inside)

end Settings

namespace Text

/-- Below 128 there is one run of capital letters. -/
theorem caseRuns_first :
    ∀ run ∈ caseRuns, (65 ≤ run.first ∧ run.last ≤ 90) ∨ 128 ≤ run.first := by
  decide +kernel

/-- No run of capital letters has a character below 128 that is no capital letter. -/
theorem caseRuns_none {code : Nat} (small : code < 128) (other : ¬(65 ≤ code ∧ code ≤ 90)) :
    (caseRuns.find? fun run => run.contains code) = none := by
  rw [List.find?_eq_none]
  intro run inside
  have place := caseRuns_first run inside
  simp only [CaseRun.contains, Bool.and_eq_true, decide_eq_true_eq]
  omega

/-- Characters of lowercase names are in lowercase. -/
theorem lowerAfter_plain {chars : List Char} (plain : chars.all Settings.isPlainChar = true)
    (before : List Char) : lowerAfter before chars = chars := by
  induction chars generalizing before with
  | nil => rfl
  | cons char rest ih =>
    rw [List.all_cons, Bool.and_eq_true] at plain
    obtain ⟨small, other⟩ := Settings.isPlainChar_code plain.1
    have noSigma : char ≠ 'Σ' := by
      rintro rfl
      exact absurd small (by decide)
    have noDotted : char ≠ 'İ' := by
      rintro rfl
      exact absurd small (by decide)
    have own : lowerChar char = char := by rw [lowerChar, caseRuns_none small other]
    rw [lowerAfter, if_neg noSigma, if_neg noDotted, own, ih plain.2]
    rfl

/-- A lowercase name is in lowercase. -/
theorem toLower_plain {name : String} (plain : Settings.Plain name) : toLower name = name := by
  rw [toLower, lowerAfter_plain plain.2, String.ofList_toList]

end Text

namespace Settings

/-! ## Fields -/

namespace Value

/-- The field that is put into a list is found there, and the others are found as before. -/
theorem find?_putField (name other : String) (value : Value) (fields : List (String × Value)) :
    ((putField name value fields).find? fun field => field.1 == other).map (·.2) =
      if other = name then some value
      else (fields.find? fun field => field.1 == other).map (·.2) := by
  induction fields with
  | nil =>
    by_cases same : other = name
    · simp [putField, same]
    · simp [putField, same, Ne.symm same]
  | cons head rest ih =>
    rw [putField]
    by_cases here : head.1 = name
    · rw [if_pos here]
      by_cases same : other = name
      · simp [same]
      · simp [same, Ne.symm same, here]
    · rw [if_neg here]
      by_cases found : head.1 = other
      · have different : other ≠ name := fun same => here (found.trans same)
        simp [found, different]
      · simp only [List.find?_cons, beq_eq_false_iff_ne.2 found]
        exact ih

/-- The field that is put into a value is found there, and the others are found as before. -/
theorem field?_withField (root : Value) (name other : String) (value : Value) :
    (root.withField name value).field? other =
      if other = name then some value else root.field? other := by
  cases root with
  | table origin fields => exact find?_putField name other value fields
  | scalar origin content => exact find?_putField name other value []
  | array origin items => exact find?_putField name other value []

/-- A value that is a table. -/
def IsTable (value : Value) : Prop := ∃ origin fields, value = .table origin fields

/-- With a field put into it a value is a table. -/
theorem isTable_withField (root : Value) (name : String) (value : Value) :
    (root.withField name value).IsTable := by
  cases root <;> exact ⟨_, _, rfl⟩

/-- Putting a value under a name changes the field of that name only. -/
theorem place_eq_withField {name : String} (plain : Plain name) (value root : Value) :
    ∃ placed, place name value root = root.withField name placed := by
  cases value <;> rw [place, Text.toLower_plain plain] <;> exact ⟨_, rfl⟩

end Value

end Settings

/-! ## Settings in documents -/

namespace Toml.Value

/-- The scalar that a value without others in it stands for. -/
def scalar? : Value → Option Settings.Scalar
  | string text => some (.string text)
  | integer value => some (.integer value)
  | float value => some (.float value)
  | boolean value => some (.bool value)
  | moment text => some (.string text)
  | array _ => none
  | table _ => none

/-- The entries of a table; other values have none. -/
def entries : Value → List (String × Value)
  | table entries => entries
  | _ => []

/-- A value without others in it is the scalar that it stands for. -/
theorem ofToml_scalar {value : Value} {content : Settings.Scalar}
    (single : value.scalar? = some content) (label : Option String) :
    Settings.Value.ofToml label value = .scalar label content := by
  cases value <;> cases single <;> rfl

end Toml.Value

namespace Settings

/-- The settings that there are. -/
inductive Setting where
  /-- The format of an output file whose extension no format lists. -/
  | defaultFormat
  /-- Whether the labels of a graph are escaped. -/
  | escapeLabels
  /-- Whether the lines of a tree view show identifiers. -/
  | showIds
  /-- Whether JSON has the pretty layout. -/
  | pretty
  deriving Repr, DecidableEq

namespace Setting

/-- The group of a setting. -/
def group : Setting → String
  | defaultFormat => "output"
  | escapeLabels => "dot"
  | showIds => "treeviz"
  | pretty => "json"

/-- The name of a setting in its group. -/
def field : Setting → String
  | defaultFormat => "default_format"
  | escapeLabels => "escape_labels"
  | showIds => "show_ids"
  | pretty => "pretty"

/-- The key of a setting, with its group before a dot. -/
def key (setting : Setting) : String := setting.group ++ "." ++ setting.field

/-- The path that the key spells. -/
def path (setting : Setting) : KeyPath := .child (.name setting.group) setting.field

/-- The value of a setting to which nothing else gives one. -/
def default : Setting → Scalar
  | defaultFormat => .string "dot"
  | escapeLabels => .bool false
  | showIds => .bool false
  | pretty => .bool true

/-- The values that the entries of a document give to a setting, in their order. -/
def said (setting : Setting) (entries : List (String × Toml.Value)) : List Scalar :=
  entries.flatMap fun entry =>
    if entry.1 = setting.group then
      entry.2.entries.filterMap fun field =>
        if field.1 = setting.field then field.2.scalar? else none
    else []

theorem plain_group (setting : Setting) : Plain setting.group := by cases setting <;> decide

theorem plain_field (setting : Setting) : Plain setting.field := by cases setting <;> decide

/-- No two settings are in one group. -/
theorem group_inj {setting other : Setting} : setting.group = other.group ↔ setting = other := by
  cases setting <;> cases other <;> decide

/-- The key of a setting spells its path. -/
theorem parse_key (setting : Setting) : KeyPath.parse setting.key = some setting.path := by
  cases setting <;> decide +kernel

end Setting

/-- Entries under lowercase names, in which the groups of the settings are tables of scalars, again
under lowercase names. What stands under other names may be anything. -/
def Regular (entries : List (String × Toml.Value)) : Prop :=
  ∀ entry ∈ entries, Plain entry.1 ∧ ∀ setting : Setting, entry.1 = setting.group →
    ∃ fields, entry.2 = .table fields ∧
      ∀ field ∈ fields, Plain field.1 ∧ ∃ content, field.2.scalar? = some content

/-! ## Layers over layers -/

/-- A table in which every group is a table that has a value for its setting. -/
def Holds (root : Value) (values : Setting → Scalar) : Prop :=
  ∀ setting : Setting, ∃ group origin, root.field? setting.group = some group ∧ group.IsTable ∧
    group.field? setting.field = some (.scalar origin (values setting))

/-- What one list ends with stands behind what another one ends with. -/
theorem getLastD_append {α : Type} (first second : List α) (other : α) :
    (first ++ second).getLastD other = second.getLastD (first.getLastD other) := by
  simp only [List.getLastD_eq_getLast?, List.getLast?_append]
  cases second.getLast? <;> rfl

/-- Scalars that are put into a table are found there by the last of their name, and what stood
there is found under other names. -/
theorem placeAll_scalars (label : Option String) {name : String}
    {fields : List (String × Toml.Value)}
    (scalars : ∀ field ∈ fields, Plain field.1 ∧ ∃ content, field.2.scalar? = some content)
    {group : Value} {origin : Option String} {content : Scalar} (table : group.IsTable)
    (found : group.field? name = some (.scalar origin content)) :
    ∃ source, (Value.placeAll (fieldsOfToml label fields) group).IsTable ∧
      (Value.placeAll (fieldsOfToml label fields) group).field? name =
        some (.scalar source ((fields.filterMap fun field =>
          if field.1 = name then field.2.scalar? else none).getLastD content)) := by
  induction fields generalizing group origin content with
  | nil => exact ⟨origin, table, found⟩
  | cons head rest ih =>
    obtain ⟨own, value⟩ := head
    obtain ⟨plain, single, same⟩ := scalars _ List.mem_cons_self
    have others := fun field inside => scalars field (List.mem_cons_of_mem _ inside)
    have placed : Value.place own (Value.ofToml label value) group =
        group.withField own (.scalar label single) := by
      rw [Toml.Value.ofToml_scalar same, Value.place, Text.toLower_plain plain]
    have stays := Value.isTable_withField group own (.scalar label single)
    have after := Value.field?_withField group own name (.scalar label single)
    rw [fieldsOfToml, Value.placeAll, placed, List.filterMap_cons]
    by_cases here : own = name
    · rw [if_pos here.symm] at after
      rw [if_pos here, same, List.getLastD_cons]
      exact ih others stays after
    · rw [if_neg (Ne.symm here), found] at after
      rw [if_neg here]
      exact ih others stays after

/-- An entry of a document gives a value to the setting of its group, if it has one for it. -/
theorem Holds.place {root : Value} {values : Setting → Scalar} (holds : Holds root values)
    {entry : String × Toml.Value} (regular : Regular [entry]) (label : Option String) :
    Holds (Value.place entry.1 (Value.ofToml label entry.2) root)
      fun setting => (setting.said [entry]).getLastD (values setting) := by
  obtain ⟨name, value⟩ := entry
  obtain ⟨plain, tables⟩ := regular _ List.mem_cons_self
  intro setting
  obtain ⟨group, origin, present, table, found⟩ := holds setting
  -- The table of the setting is merged into its group; any other name leaves the group alone.
  by_cases own : name = setting.group
  · obtain ⟨fields, rfl, scalars⟩ := tables setting own
    obtain ⟨source, stays, read⟩ := placeAll_scalars label scalars table found
    refine ⟨_, source, ?_, stays, ?_⟩
    · simp only [Value.ofToml, Value.place]
      rw [Text.toLower_plain plain, own, present, Value.field?_withField, if_pos rfl,
        Option.getD_some]
    · simp only [Setting.said, List.flatMap_cons, List.flatMap_nil, List.append_nil, if_pos own]
      exact read
  · obtain ⟨placed, same⟩ := Value.place_eq_withField plain (Value.ofToml label value) root
    refine ⟨group, origin, ?_, table, ?_⟩
    · rw [same, Value.field?_withField, if_neg (Ne.symm own), present]
    · simp only [Setting.said, List.flatMap_cons, List.flatMap_nil, List.append_nil, if_neg own]
      exact found

/-- A document gives values to the settings that it has values for. -/
theorem Holds.putLayer {root : Value} {values : Setting → Scalar} (holds : Holds root values)
    {entries : List (String × Toml.Value)} (regular : Regular entries) (label : Option String) :
    Holds (putLayer root (fieldsOfToml label entries))
      fun setting => (setting.said entries).getLastD (values setting) := by
  induction entries generalizing root values with
  | nil => exact holds
  | cons entry rest ih =>
    have single : Regular [entry] := fun _ inside =>
      regular _ (List.mem_singleton.1 inside ▸ List.mem_cons_self)
    have others : Regular rest := fun _ inside => regular _ (List.mem_cons_of_mem _ inside)
    have plain := (regular entry List.mem_cons_self).1
    have step : Settings.putLayer root (fieldsOfToml label (entry :: rest)) =
        Settings.putLayer (Value.place entry.1 (Value.ofToml label entry.2) root)
          (fieldsOfToml label rest) := by
      simp only [Settings.putLayer, fieldsOfToml, List.foldl_cons, plain.parse, KeyPath.set]
    have split (setting : Setting) :
        setting.said (entry :: rest) = setting.said [entry] ++ setting.said rest := by
      simp only [Setting.said, List.flatMap_cons, List.flatMap_nil, List.append_nil]
    rw [step]
    simp only [split, getLastD_append]
    exact ih (holds.place single label) others

/-- An override gives a value to its setting. -/
theorem Holds.set {root : Value} {values : Setting → Scalar} (holds : Holds root values)
    (setting : Setting) (content : Scalar) :
    Holds (setting.path.set (.scalar none content) root)
      (Function.update values setting content) := by
  intro other
  obtain ⟨group, origin, present, table, found⟩ := holds setting
  have changed : setting.path.set (.scalar none content) root =
      root.withField setting.group (group.withField setting.field (.scalar none content)) := by
    rw [Setting.path, KeyPath.set, KeyPath.change, KeyPath.changeField,
      Text.toLower_plain setting.plain_group, present, Option.getD_some, Value.place,
      Text.toLower_plain setting.plain_field]
  rw [changed, Value.field?_withField]
  by_cases same : other = setting
  · subst same
    rw [if_pos rfl, Function.update_self]
    refine ⟨_, none, rfl, Value.isTable_withField _ _ _, ?_⟩
    rw [Value.field?_withField, if_pos rfl]
  · rw [if_neg (mt Setting.group_inj.1 same), Function.update_of_ne same]
    exact holds other

/-- A layer with a table for each setting gives all settings their values. -/
theorem holds_layer (origin : Option String) (values : Setting → Scalar) :
    Holds
      (putLayer Value.emptyTable
        ([Setting.defaultFormat, .escapeLabels, .showIds, .pretty].map fun setting =>
          (setting.group, .table origin [(setting.field, .scalar origin (values setting))])))
      values := by
  have group (setting : Setting) : KeyPath.parse setting.group = some (.name setting.group) :=
    setting.plain_group.parse
  have lowGroup (setting : Setting) : Text.toLower setting.group = setting.group :=
    Text.toLower_plain setting.plain_group
  have lowField (setting : Setting) : Text.toLower setting.field = setting.field :=
    Text.toLower_plain setting.plain_field
  simp only [Settings.putLayer, List.map_cons, List.map_nil, List.foldl_cons, List.foldl_nil, group,
    KeyPath.set, Value.place, Value.placeAll, lowGroup, lowField]
  intro setting
  cases setting <;> exact ⟨_, _, rfl, ⟨_, _, rfl⟩, rfl⟩

/-! ## Conversion -/

/-- The settings that values convert to. -/
def Converted (values : Setting → Scalar) (settings : Settings) : Prop :=
  Value.toText (.scalar none (values .defaultFormat)) = .ok settings.defaultFormat ∧
    Value.toFlag (.scalar none (values .escapeLabels)) = .ok settings.escapeLabels ∧
    Value.toFlag (.scalar none (values .showIds)) = .ok settings.showIds ∧
    Value.toFlag (.scalar none (values .pretty)) = .ok settings.pretty

/-- Whether a value can be converted to a setting. -/
def Setting.Accepts (setting : Setting) (content : Scalar) : Prop :=
  match setting with
  | .defaultFormat => ∃ text, Value.toText (.scalar none content) = .ok text
  | _ => ∃ flag, Value.toFlag (.scalar none content) = .ok flag

theorem toText_origin (origin : Option String) (content : Scalar) :
    Value.toText (.scalar origin content) = Value.toText (.scalar none content) := by
  cases content <;> rfl

theorem toFlag_origin (origin : Option String) (content : Scalar) :
    Value.toFlag (.scalar origin content) = Value.toFlag (.scalar none content) := by
  cases content <;> rfl

/-- A group is read as what the value of its setting converts to, if it does. -/
theorem Group.read_cases {α : Type} (group : Group α) (setting : Setting) {root : Value}
    {values : Setting → Scalar} (holds : Holds root values) (table : group.table = setting.group)
    (field : group.field = setting.field)
    (alike : ∀ origin content,
      group.convert (.scalar origin content) = group.convert (.scalar none content)) :
    ((¬∃ value, group.convert (.scalar none (values setting)) = .ok value) ∧
        ∃ found expected origin,
          group.read root = .error (.mistyped found expected setting.key origin)) ∨
      ∃ value, group.convert (.scalar none (values setting)) = .ok value ∧
        group.read root = .ok value := by
  obtain ⟨_, origin, present, ⟨_, _, rfl⟩, found⟩ := holds setting
  have read : group.read root =
      group.convertAt ("." ++ group.field) (.scalar origin (values setting)) := by
    rw [Group.read, table, present]
    simp only
    rw [field, found]
  rw [read, convertAt, alike origin]
  cases group.convert (.scalar none (values setting)) with
  | ok value => exact .inr ⟨value, rfl, rfl⟩
  | error unexpected =>
    refine .inl ⟨nofun, unexpected, group.expected, origin, ?_⟩
    rw [table, field, Setting.key, String.append_assoc]
    rfl

/-- What is read out is what the values convert to, unless one of them does not convert. -/
theorem Holds.ofValue_cases {root : Value} {values : Setting → Scalar}
    (holds : Holds root values) :
    (∃ settings, Converted values settings ∧ ofValue root = .ok settings) ∨
      ∃ setting : Setting, ¬setting.Accepts (values setting) ∧ ∃ found expected origin,
        ofValue root = .error (.mistyped found expected setting.key origin) := by
  unfold ofValue
  obtain ⟨refused, found, expected, origin, failed⟩ | ⟨format, text, output⟩ :=
    outputGroup.read_cases .defaultFormat holds rfl rfl toText_origin
  · refine .inr ⟨.defaultFormat, refused, found, expected, origin, ?_⟩
    rw [failed]
    rfl
  obtain ⟨refused, found, expected, origin, failed⟩ | ⟨escape, escapeFlag, dot⟩ :=
    dotGroup.read_cases .escapeLabels holds rfl rfl toFlag_origin
  · refine .inr ⟨.escapeLabels, refused, found, expected, origin, ?_⟩
    rw [output, failed]
    rfl
  obtain ⟨refused, found, expected, origin, failed⟩ | ⟨ids, idsFlag, tree⟩ :=
    treeViewGroup.read_cases .showIds holds rfl rfl toFlag_origin
  · refine .inr ⟨.showIds, refused, found, expected, origin, ?_⟩
    rw [output, dot, failed]
    rfl
  obtain ⟨refused, found, expected, origin, failed⟩ | ⟨layout, layoutFlag, json⟩ :=
    jsonGroup.read_cases .pretty holds rfl rfl toFlag_origin
  · refine .inr ⟨.pretty, refused, found, expected, origin, ?_⟩
    rw [output, dot, tree, failed]
    rfl
  refine .inl ⟨⟨format, escape, ids, layout⟩, ⟨text, escapeFlag, idsFlag, layoutFlag⟩, ?_⟩
  rw [output, dot, tree, json]
  rfl

/-- Values that convert to settings can all be converted. -/
theorem Converted.accepts {values : Setting → Scalar} {settings : Settings}
    (converted : Converted values settings) (setting : Setting) :
    setting.Accepts (values setting) := by
  obtain ⟨format, escape, ids, layout⟩ := converted
  cases setting with
  | defaultFormat => exact ⟨_, format⟩
  | escapeLabels => exact ⟨_, escape⟩
  | showIds => exact ⟨_, ids⟩
  | pretty => exact ⟨_, layout⟩

/-- Values convert to no more than one record of settings. -/
theorem Converted.unique {values : Setting → Scalar} {settings other : Settings}
    (converted : Converted values settings) (again : Converted values other) :
    settings = other := by
  obtain ⟨format, escape, ids, layout⟩ := converted
  obtain ⟨format', escape', ids', layout'⟩ := again
  cases settings
  cases other
  cases format.symm.trans format'
  cases escape.symm.trans escape'
  cases ids.symm.trans ids'
  cases layout.symm.trans layout'
  rfl

/-- The settings that are read out are those that the values convert to. -/
theorem Holds.ofValue_eq_ok_iff {root : Value} {values : Setting → Scalar}
    (holds : Holds root values) (settings : Settings) :
    ofValue root = .ok settings ↔ Converted values settings := by
  obtain ⟨own, converted, read⟩ | ⟨setting, refused, _, _, _, failed⟩ := holds.ofValue_cases
  · rw [read]
    constructor
    · rintro ⟨⟩
      exact converted
    · intro again
      rw [converted.unique again]
  · rw [failed]
    exact iff_of_false nofun fun converted => refused (converted.accepts setting)

/-- A value of another type is found exactly if one of the values does not convert. -/
theorem Holds.ofValue_mistyped_iff {root : Value} {values : Setting → Scalar}
    (holds : Holds root values) :
    (∃ found expected key origin, ofValue root = .error (.mistyped found expected key origin)) ↔
      ∃ setting : Setting, ¬setting.Accepts (values setting) := by
  obtain ⟨own, converted, read⟩ | ⟨setting, refused, found, expected, origin, failed⟩ :=
    holds.ofValue_cases
  · rw [read]
    refine iff_of_false ?_ ?_
    · rintro ⟨_, _, _, _, ⟨⟩⟩
    · rintro ⟨setting, refused⟩
      exact refused (converted.accepts setting)
  · exact iff_of_true ⟨found, expected, _, origin, failed⟩ ⟨setting, refused⟩

end Settings

end AstView
