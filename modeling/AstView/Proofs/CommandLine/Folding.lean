import AstView.Proofs.CommandLine.Overrides
import AstView.Proofs.Knob

/-!
# Parameters by way of settings

The command line takes a parameter that stands for a setting out of the others, reads it, changes
the setting, and the format reads the text of the setting in its place. A parameter that is given to
the format over those of the settings is read by the format alone. Both come to the same if the
parameters have no key of another setting: the command line then takes out the key of the knob and
nothing else (`applyOverrides_own`), the keys that the format sees are the same and so is the value
of its knob (`contains_formatParameters`, `gives_formatParameters`), and no more than that counts
(`Knob.writeWith_congr`). A text that is no truth value fails on both ways.
-/
namespace AstView.CommandLine

open Parameters (spellings spelledFlag_eq_some_iff)

variable {settings : Settings} {parameters : Parameters}

/-- A parameter that is not there changes nothing. -/
theorem takeFlag_absent {key : String} (absent : parameters.get? key = none) (name : String)
    (change : Bool → Settings) :
    takeFlag settings parameters name key change = .ok (settings, parameters) := by
  rw [takeFlag, absent]

/-- A text that is no truth value is refused. -/
theorem takeFlag_misspelled {key text : String} (found : parameters.get? key = some text)
    (misspelled : ∀ value, Text.toLower text ∉ spellings value) (name : String)
    (change : Bool → Settings) :
    takeFlag settings parameters name key change =
      .error (.notBoolean (Text.toLower text) name) := by
  simp only [takeFlag, found, Parameters.readFlag_misspelled misspelled]
  rfl

/-- What is not there is not there when a parameter has been taken out. -/
theorem takeFlag_rest {key name other : String} {change : Bool → Settings} {changed : Settings}
    {rest : Parameters}
    (taken : takeFlag settings parameters name key change = .ok (changed, rest))
    (absent : parameters.get? other = none) : rest.get? other = none := by
  unfold takeFlag at taken
  split at taken
  · cases taken
    exact absent
  · cases read : Parameters.readFlag name _ with
    | error refusal =>
      rw [read] at taken
      cases taken
    | ok value =>
      rw [read] at taken
      cases taken
      rw [NameMap.get?_erase, absent, ite_self]

/-- No parameter stands for a setting but the one under the key of a knob. -/
def Own (knob : Knob) (parameters : Parameters) : Prop :=
  ∀ key ∈ settingKeys, key ≠ knob.key → parameters.contains key = false

instance (knob : Knob) (parameters : Parameters) : Decidable (Own knob parameters) :=
  inferInstanceAs (Decidable (∀ key ∈ settingKeys, _))

/-- Without the short key of the identifiers the long one counts. -/
theorem takeFlag_identifiers (noShort : parameters.get? "ids" = none) (change : Bool → Settings) :
    takeFlag settings parameters "show-ids"
        (if parameters.contains "show-ids" then "show-ids" else "ids") change =
      takeFlag settings parameters "show-ids" "show-ids" change := by
  by_cases long : parameters.contains "show-ids" = true
  · rw [if_pos long]
  · rw [if_neg long, takeFlag_absent noShort,
      takeFlag_absent (Option.not_isSome_iff_eq_none.1 long)]

/-- What goes on behind a result and leaves it as it is may be left out. -/
theorem bind_eq_self {ε α : Type} {result : Except ε α} {next : α → Except ε α}
    (leaves : ∀ value, result = .ok value → next value = .ok value) : result >>= next = result := by
  cases result with
  | error error => rfl
  | ok value => exact leaves value rfl

variable {knob : Knob}

/-- The command line takes out the parameter of the knob and leaves the others. -/
theorem applyOverrides_own (own : Own knob parameters) (settings : Settings) :
    applyOverrides settings parameters =
      takeFlag settings parameters knob.key knob.key (knob.set settings) := by
  have absent (key : String) (standing : key ∈ settingKeys) (other : key ≠ knob.key) :
      parameters.get? key = none :=
    Option.not_isSome_iff_eq_none.1 (Bool.eq_false_iff.1 (own key standing other))
  unfold applyOverrides
  cases knob with
  | escapeLabels =>
    refine bind_eq_self fun (changed, rest) taken => ?_
    have noShort := takeFlag_rest taken (absent "ids" (by decide) (by decide))
    have noIds := takeFlag_rest taken (absent "show-ids" (by decide) (by decide))
    have noPretty := takeFlag_rest taken (absent "pretty" (by decide) (by decide))
    simp only [takeFlag_identifiers noShort, takeFlag_absent noIds]
    exact takeFlag_absent noPretty _ _
  | showIds =>
    have noLabels := absent "escape-labels" (by decide) (by decide)
    have noShort := absent "ids" (by decide) (by decide)
    rw [takeFlag_absent noLabels]
    change (takeFlag _ _ _ _ _ >>= _) = _
    rw [takeFlag_identifiers noShort]
    refine bind_eq_self fun (changed, rest) taken => ?_
    exact takeFlag_absent (takeFlag_rest taken (absent "pretty" (by decide) (by decide))) _ _
  | pretty =>
    have noLabels := absent "escape-labels" (by decide) (by decide)
    have noShort := absent "ids" (by decide) (by decide)
    have noIds := absent "show-ids" (by decide) (by decide)
    rw [takeFlag_absent noLabels]
    change (takeFlag _ _ _ _ _ >>= _) = _
    rw [takeFlag_identifiers noShort, takeFlag_absent noIds]
    rfl

/-! ## What the format sees -/

/-- A format sees the given parameters, and the value of the setting if there is none for its
knob. -/
theorem get?_formatParameters (knob : Knob) (settings : Settings) (parameters : Parameters)
    (key : String) :
    (formatParameters settings knob.format.name parameters).get? key =
      (parameters.get? key).or
        (if knob.key = key then some (Kind.flagText (knob.setting settings)) else none) := by
  rw [formatParameters, NameMap.get?_override, Knob.parametersFor_eq, NameMap.get?_single]

/-- Taking the parameter of the knob out makes no difference to the keys that the format sees. -/
theorem contains_formatParameters (knob : Knob) (settings changed : Settings)
    (parameters : Parameters) (key : String) :
    (formatParameters changed knob.format.name (parameters.erase knob.key)).contains key =
      (formatParameters settings knob.format.name parameters).contains key := by
  rw [NameMap.contains, NameMap.contains, get?_formatParameters, get?_formatParameters,
    Option.isSome_or, Option.isSome_or, NameMap.get?_erase]
  by_cases own : knob.key = key
  · rw [if_pos own, if_pos own, if_pos own, Option.isSome_some, Bool.or_true, Option.isSome_some,
      Bool.or_true]
  · rw [if_neg own, if_neg own, if_neg own]

/-- The value that parameters over settings come to. -/
def resolved (knob : Knob) (settings : Settings) (parameters : Parameters) : Bool :=
  (parameters.spelled? knob.key).getD (knob.setting settings)

/-- The format is given the value that the parameters spell, else that of the setting. -/
theorem gives_formatParameters (settings : Settings) (spelled : parameters.Spelled knob.key) :
    knob.Gives (formatParameters settings knob.format.name parameters)
      (resolved knob settings parameters) := by
  rw [Knob.Gives, get?_formatParameters, if_pos rfl, resolved, Parameters.spelled?]
  cases found : parameters.get? knob.key with
  | none => exact Knob.flagText_spells _
  | some text =>
    obtain ⟨value, reads⟩ := Option.isSome_iff_exists.1 (spelled text found)
    rw [Option.bind_some, reads]
    exact spelledFlag_eq_some_iff.1 reads

/-- The settings that the parameter of the knob changes have the value that it comes to. -/
theorem setting_changed (knob : Knob) (settings : Settings) (parameters : Parameters) :
    knob.setting ((parameters.spelled? knob.key).elim settings (knob.set settings)) =
      resolved knob settings parameters := by
  rw [resolved]
  cases parameters.spelled? knob.key with
  | none => rfl
  | some value => exact knob.setting_set settings value

/-! ## Both ways -/

/-- Writes a document as the command line does: parameters that stand for settings change them, and
the format gets the parameters that are left over those that the settings say. -/
def writeFolded (format : Format) (settings : Settings) (parameters : Parameters)
    (document : Document) (label : String) (sink : Sink) : Sink × Except Error Unit :=
  match applyOverrides settings parameters with
  | .ok (changed, rest) =>
    format.writeWith (formatParameters changed format.name rest) document label sink
  | .error refusal => (sink, .error (.ofRefusal refusal))

section
variable (document : Document) (label : String) (sink : Sink)

/-- If the parameter of the knob is a truth value or not there, both ways come to the same. -/
theorem writeFolded_spelled (own : Own knob parameters) (settings : Settings)
    (spelled : parameters.Spelled knob.key) :
    writeFolded knob.format settings parameters document label sink =
      knob.format.writeWith ((settings.parametersFor knob.format.name).override parameters)
        document label sink := by
  let changed := (parameters.spelled? knob.key).elim settings (knob.set settings)
  have applied : applyOverrides settings parameters = .ok (changed, parameters.erase knob.key) := by
    rw [applyOverrides_own own, takeFlag_spelled spelled]
  have again := gives_formatParameters changed (spelled.erase knob.key)
  have same : resolved knob changed (parameters.erase knob.key) =
      resolved knob settings parameters := by
    rw [← setting_changed knob settings, resolved, Parameters.spelled?, NameMap.get?_erase,
      if_pos rfl]
    rfl
  rw [same] at again
  rw [writeFolded, applied]
  exact Knob.writeWith_congr document label sink
    (contains_formatParameters knob settings changed parameters)
    (gives_formatParameters settings spelled) again

/-- A text that is no truth value is refused by the format too, if not for another key. -/
theorem writeWith_misspelled {text : String} (found : parameters.get? knob.key = some text)
    (misspelled : ∀ value, Text.toLower text ∉ spellings value) :
    ∃ reason, knob.format.writeWith
        ((settings.parametersFor knob.format.name).override parameters) document label sink =
      (sink, .error (.notSupported reason)) := by
  let seen := formatParameters settings knob.format.name parameters
  have there : seen.get? knob.key = some text := by
    rw [get?_formatParameters, found, Option.some_or]
  by_cases alone : knob.Alone seen
  · exact ⟨_, Knob.writeWith_misspelled document label sink alone there misspelled⟩
  · exact ⟨_, Knob.writeWith_others document label sink alone⟩

end

/-- A text under the key of the knob changes the setting to the value that it spells. -/
theorem applyOverrides_set_iff (own : Own knob parameters) {text : String}
    (found : parameters.get? knob.key = some text) (value : Bool) :
    (∃ rest, applyOverrides settings parameters = .ok (knob.set settings value, rest)) ↔
      Text.toLower text ∈ spellings value := by
  rw [applyOverrides_own own, ← spelledFlag_eq_some_iff]
  simp only [takeFlag, found, Parameters.readFlag]
  cases spelledFlag (Text.toLower text) with
  | none =>
    constructor
    · rintro ⟨rest, taken⟩
      cases taken
    · intro spells
      cases spells
  | some read =>
    constructor
    · rintro ⟨rest, taken⟩
      simp only [Except.map, Except.ok.injEq, Prod.mk.injEq] at taken
      have same := congrArg knob.setting taken.1
      rw [Knob.setting_set, Knob.setting_set] at same
      rw [same]
    · intro spells
      cases spells
      exact ⟨_, rfl⟩

/-- Where there is no truth value there is a text that spells none. -/
theorem exists_misspelled {key : String} (unspelled : ¬parameters.Spelled key) :
    ∃ text, parameters.get? key = some text ∧ ∀ value, Text.toLower text ∉ spellings value := by
  simp only [Parameters.Spelled, not_forall] at unspelled
  obtain ⟨text, found, unread⟩ := unspelled
  refine ⟨text, found, fun value spells => unread ?_⟩
  rw [spelledFlag_eq_some_iff.2 spells]
  rfl

/-- Parameters are treated alike by way of the settings and directly. -/
structure TreatedAlike (knob : Knob) (settings : Settings) (parameters : Parameters) : Prop where
  /-- If the text for the knob is a truth value, or there is none, the same is written to every sink
  with the same result. -/
  written : parameters.Spelled knob.key → ∀ document label sink,
    writeFolded knob.format settings parameters document label sink =
      knob.format.writeWith ((settings.parametersFor knob.format.name).override parameters)
        document label sink
  /-- If it is none, both ways fail with nothing written, the one already at the settings. -/
  refused : ¬parameters.Spelled knob.key → ∃ refusal,
    applyOverrides settings parameters = .error refusal ∧ ∀ document label sink,
      writeFolded knob.format settings parameters document label sink =
          (sink, .error (.ofRefusal refusal)) ∧
        ∃ reason, knob.format.writeWith
            ((settings.parametersFor knob.format.name).override parameters) document label sink =
          (sink, .error (.notSupported reason))
  /-- A text has the same meaning on both ways, if it has one. -/
  meaning : ∀ text, parameters.get? knob.key = some text → ∀ value,
    ((∃ rest, applyOverrides settings parameters = .ok (knob.set settings value, rest)) ↔
        Text.toLower text ∈ spellings value) ∧
      (Parameters.flag ((settings.parametersFor knob.format.name).override parameters) knob.key
          knob.unset = .ok value ↔ Text.toLower text ∈ spellings value)

/-- Parameters without a key of another format, and without the short key of the identifiers, are
treated alike by the command line and by the format that they are given to. -/
theorem writeFolded_agrees {format : Format} (builtIn : format ∈ Format.builtIn) :
    ∃ knob : Knob, knob.format = format ∧ ∀ settings parameters, Own knob parameters →
      TreatedAlike knob settings parameters := by
  obtain ⟨knob, rfl⟩ := Knob.mem_builtIn_iff.1 builtIn
  refine ⟨knob, rfl, fun settings parameters own => ⟨?_, ?_, ?_⟩⟩
  · exact fun spelled document label sink =>
      writeFolded_spelled document label sink own settings spelled
  · intro unspelled
    obtain ⟨text, found, misspelled⟩ := exists_misspelled unspelled
    refine ⟨_, (applyOverrides_own own settings).trans
      (takeFlag_misspelled found misspelled _ _), fun document label sink => ⟨?_, ?_⟩⟩
    · rw [writeFolded, applyOverrides_own own, takeFlag_misspelled found misspelled]
    · exact writeWith_misspelled document label sink found misspelled
  · intro text found value
    have there : (formatParameters settings knob.format.name parameters).get? knob.key =
        some text := by
      rw [get?_formatParameters, found, Option.some_or]
    refine ⟨applyOverrides_set_iff own found value, Knob.flag_eq_ok_iff.trans ?_⟩
    exact Knob.gives_iff there

/-- A truth value in capital letters next to a key that no format knows. -/
def shouted : Parameters := .ofList [("pretty", "NO"), ("rankdir", "LR")]

/-- The same with a text that is no truth value. -/
def garbled : Parameters := .ofList [("pretty", "off"), ("rankdir", "LR")]

theorem writeFolded_agrees_shouted :
    Format.json ∈ Format.builtIn ∧ Own .pretty shouted ∧ Own .pretty garbled ∧
      (∃ rest, applyOverrides {} shouted = .ok ({ pretty := false }, rest)) ∧
      (∀ document label sink, writeFolded .json {} shouted document label sink =
        Format.json.writeWith ((Settings.parametersFor {} "json").override shouted) document label
          sink) ∧
      ∀ document label sink, ∃ early late,
        writeFolded .json {} garbled document label sink = (sink, .error early) ∧
          Format.json.writeWith ((Settings.parametersFor {} "json").override garbled) document label
            sink = (sink, .error late) := by
  have member : Format.json ∈ Format.builtIn := .tail _ (.tail _ (.head _))
  obtain ⟨knob, same, alike⟩ := writeFolded_agrees member
  obtain rfl : knob = .pretty := Knob.format_injective same
  have ownShouted : Own .pretty shouted := by decide
  have ownGarbled : Own .pretty garbled := by decide
  have first := alike {} shouted ownShouted
  have second := alike {} garbled ownGarbled
  refine ⟨member, ownShouted, ownGarbled, ?_, first.written (by decide), ?_⟩
  · exact (first.meaning "NO" rfl false).1.2 (by decide)
  · intro document label sink
    obtain ⟨refusal, -, fails⟩ := second.refused (by decide)
    obtain ⟨early, reason, late⟩ := fails document label sink
    exact ⟨_, _, early, late⟩

end AstView.CommandLine
