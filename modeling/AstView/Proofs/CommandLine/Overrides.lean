import AstView.CommandLine.Conversion
import AstView.Proofs.Knob

/-!
# Parameters that stand for settings

Four keys stand for three settings. Taking a flag out changes its setting and leaves the other
parameters (`takeFlag_spelled`), so after all of them the settings have what was given and the keys
are gone (`applyOverrides_spelled`). One key is not gone if both keys of the identifiers were there:
the short one stays with its text. What stays reaches a format, together with the one parameter that
the settings give to it, which is the only one that it knows (`Knob.renderWith_unknown_iff`). So a
conversion is refused for a key that stands for a setting exactly if both keys of the identifiers
were given (`applyOverrides_takesSettings`, `short_key_refused`).
-/
namespace AstView

namespace CommandLine

/-- The keys that stand for settings. The second and the third one stand for the same. -/
def settingKeys : List String := ["escape-labels", "show-ids", "ids", "pretty"]

/-- The key of the identifiers that counts. -/
def identifiersKey (parameters : Parameters) : String :=
  if parameters.contains "show-ids" then "show-ids" else "ids"

/-- The key of the identifiers that counts stands for a setting. -/
theorem identifiersKey_mem (parameters : Parameters) : identifiersKey parameters ∈ settingKeys := by
  unfold identifiersKey
  split <;> decide

/-- Both keys of the identifiers are there. -/
def HasBothKeys (parameters : Parameters) : Prop :=
  parameters.contains "show-ids" = true ∧ parameters.contains "ids" = true

/-- A truth value is taken out of the parameters, and its setting gets it. -/
theorem takeFlag_spelled {parameters : Parameters} {key : String} (spelled : parameters.Spelled key)
    (settings : Settings) (name : String) (change : Bool → Settings) :
    takeFlag settings parameters name key change =
      .ok ((parameters.spelled? key).elim settings change, parameters.erase key) := by
  unfold takeFlag Parameters.spelled?
  cases found : parameters.get? key with
  | none => rw [NameMap.erase_eq_self found]; rfl
  | some text =>
    obtain ⟨value, reads⟩ := Option.isSome_iff_exists.1 (spelled text found)
    simp only [Parameters.readFlag, Option.bind_some, reads]
    rfl

variable {settings : Settings} {parameters : Parameters}

/-- The settings get the truth values given for them, and the keys that counted are taken out. -/
theorem applyOverrides_spelled (spelled : ∀ key ∈ settingKeys, parameters.Spelled key) :
    applyOverrides settings parameters =
      .ok ({ settings with
          escapeLabels := (parameters.spelled? "escape-labels").getD settings.escapeLabels
          showIds := (parameters.spelled? (identifiersKey parameters)).getD settings.showIds
          pretty := (parameters.spelled? "pretty").getD settings.pretty },
        ((parameters.erase "escape-labels").erase (identifiersKey parameters)).erase "pretty") := by
  have same : (if (parameters.erase "escape-labels").contains "show-ids" then "show-ids" else "ids")
      = identifiersKey parameters := by
    rw [NameMap.contains_erase (by decide)]
    rfl
  have apart : "escape-labels" ≠ identifiersKey parameters := by
    unfold identifiersKey
    split <;> decide
  have behind : identifiersKey parameters ≠ "pretty" := by
    unfold identifiersKey
    split <;> decide
  have escapes := spelled "escape-labels" (by decide)
  have identifiers := (spelled _ (identifiersKey_mem parameters)).erase "escape-labels"
  have prettiness := ((spelled "pretty" (by decide)).erase "escape-labels").erase
    (identifiersKey parameters)
  simp only [applyOverrides, bind, Except.bind, takeFlag_spelled escapes, same,
    takeFlag_spelled identifiers, takeFlag_spelled prettiness, Parameters.spelled?_erase behind,
    Parameters.spelled?_erase apart,
    Parameters.spelled?_erase (show "escape-labels" ≠ "pretty" by decide)]
  cases parameters.spelled? "escape-labels" <;>
    cases parameters.spelled? (identifiersKey parameters) <;>
    cases parameters.spelled? "pretty" <;> rfl

/-- The settings and the parameters behind the ones that stand for settings. -/
structure TakesSettings (settings : Settings) (parameters : Parameters) (changed : Settings)
    (rest : Parameters) : Prop where
  /-- No key stands for the default format. -/
  defaultFormat : changed.defaultFormat = settings.defaultFormat
  /-- The labels of a graph are escaped if that is given, else if they were before. -/
  escapeLabels :
    changed.escapeLabels = (parameters.spelled? "escape-labels").getD settings.escapeLabels
  /-- Identifiers have two keys, of which the long one wins. -/
  showIds : changed.showIds =
    ((parameters.spelled? "show-ids").or (parameters.spelled? "ids")).getD settings.showIds
  /-- JSON has the layout that is given, else the one that it had. -/
  pretty : changed.pretty = (parameters.spelled? "pretty").getD settings.pretty
  /-- Parameters that stand for no setting stay as they are. -/
  others : ∀ key, key ∉ settingKeys → rest.get? key = parameters.get? key
  /-- The keys of settings are gone, but for the short one of the identifiers. -/
  taken : ∀ key ∈ settingKeys, key ≠ "ids" → rest.get? key = none
  /-- That one is gone if the long one is not there, and else it stays as it is. -/
  shortKey : rest.get? "ids" =
    if parameters.contains "show-ids" then parameters.get? "ids" else none

namespace TakesSettings

variable {changed : Settings} {rest : Parameters}

/-- A key of a setting that stays is the short one of the identifiers, and both were there. -/
theorem contains_iff (takes : TakesSettings settings parameters changed rest) {key : String}
    (standing : key ∈ settingKeys) :
    rest.contains key = true ↔ key = "ids" ∧ HasBothKeys parameters := by
  by_cases short : key = "ids"
  · subst short
    rw [NameMap.contains, takes.shortKey, HasBothKeys]
    by_cases long : parameters.contains "show-ids" = true
    · rw [if_pos long, long, ← NameMap.contains]
      simp only [true_and]
    · rw [if_neg long]
      simp only [long, Option.isSome_none, Bool.false_eq_true, false_and, and_false]
  · rw [NameMap.contains, takes.taken key standing short]
    simp [short]

/-- A built-in format refuses a key of a setting exactly if both keys of the identifiers were
there. -/
theorem refused_iff (takes : TakesSettings settings parameters changed rest) {format : Format}
    (builtIn : format ∈ Format.builtIn) (document : Document) (label : String) :
    (∃ keys, format.renderWith (formatParameters changed format.name rest) document label =
        .error (.unknown format.name keys) ∧ ∃ key ∈ keys, key ∈ settingKeys) ↔
      HasBothKeys parameters := by
  obtain ⟨knob, rfl⟩ := Knob.mem_builtIn_iff.1 builtIn
  have long : knob.key ≠ "ids" := by cases knob <;> decide
  have unknown {key : String} (standing : key ∈ settingKeys) :
      key ∈ Parameters.unknownKeys (formatParameters changed knob.format.name rest)
          [knob.key] ↔
        key = "ids" ∧ HasBothKeys parameters := by
    rw [Parameters.mem_unknownKeys, NameMap.contains, formatParameters, NameMap.get?_override,
      Option.isSome_or, Bool.or_eq_true, Knob.isSome_parametersFor, List.mem_singleton,
      ← takes.contains_iff standing, NameMap.contains]
    constructor
    · rintro ⟨stays | same, other⟩
      · exact stays
      · exact absurd same other
    · intro stays
      have short : key = "ids" := ((takes.contains_iff standing).1 stays).1
      exact ⟨.inl stays, fun same => long (same.symm.trans short)⟩
  constructor
  · rintro ⟨keys, failed, key, inside, standing⟩
    rw [(Knob.renderWith_unknown_iff.1 failed).1] at inside
    exact ((unknown standing).1 inside).2
  · intro both
    have standing : "ids" ∈ settingKeys := by decide
    have inside := (unknown standing).2 ⟨rfl, both⟩
    exact ⟨_, Knob.renderWith_unknown_iff.2 ⟨rfl, List.ne_nil_of_mem inside⟩, "ids", inside,
      standing⟩

end TakesSettings

/-- The identifiers get the truth value under their long key, else the one under the short key. -/
theorem spelled?_identifiersKey (spelled : parameters.Spelled "show-ids") :
    parameters.spelled? (identifiersKey parameters) =
      (parameters.spelled? "show-ids").or (parameters.spelled? "ids") := by
  rw [identifiersKey, ← spelled.isSome_spelled?]
  cases given : parameters.spelled? "show-ids" with
  | none => rfl
  | some value => exact given

/-- Truth values under the keys of settings are taken out into the settings. -/
theorem exists_takesSettings (settings : Settings)
    (spelled : ∀ key ∈ settingKeys, parameters.Spelled key) :
    ∃ changed rest, applyOverrides settings parameters = .ok (changed, rest) ∧
      TakesSettings settings parameters changed rest := by
  refine ⟨_, _, applyOverrides_spelled spelled, ?_⟩
  have left (key : String) :
      (((parameters.erase "escape-labels").erase (identifiersKey parameters)).erase "pretty").get?
          key =
        if "pretty" = key then none else if identifiersKey parameters = key then none
        else if "escape-labels" = key then none else parameters.get? key := by
    rw [NameMap.get?_erase, NameMap.get?_erase, NameMap.get?_erase]
  constructor
  case defaultFormat => rfl
  case escapeLabels => rfl
  case showIds =>
    rw [← spelled?_identifiersKey (spelled _ (by decide))]
  case pretty => rfl
  case others =>
    intro key other
    have apart : ∀ standing ∈ settingKeys, standing ≠ key :=
      fun standing inside same => other (same ▸ inside)
    rw [left, if_neg (apart _ (by decide)), if_neg (apart _ (identifiersKey_mem _)),
      if_neg (apart _ (by decide))]
  case taken =>
    intro key standing long
    rw [left]
    simp only [settingKeys, List.mem_cons, List.not_mem_nil, or_false] at standing
    obtain rfl | rfl | rfl | rfl := standing
    · simp
    · rw [identifiersKey]
      by_cases there : parameters.contains "show-ids" = true
      · simp [there]
      · simp [there, Option.not_isSome_iff_eq_none.1 there]
    · exact absurd rfl long
    · simp
  case shortKey =>
    rw [left, if_neg (by decide), identifiersKey]
    by_cases long : parameters.contains "show-ids" = true
    · simp [long]
    · simp [long]

/-- If every text under a key of a setting is a truth value, all of them are taken out into the
settings, and the other parameters stay. Only the short key of the identifiers stays too if the long
one is there, and for no other reason does a built-in format refuse a key of a setting. -/
theorem applyOverrides_takesSettings (settings : Settings) (parameters : Parameters)
    (spelled : ∀ key ∈ settingKeys, parameters.Spelled key) :
    ∃ changed rest, applyOverrides settings parameters = .ok (changed, rest) ∧
      TakesSettings settings parameters changed rest ∧
      ((∀ key ∈ settingKeys, rest.get? key = none) ↔ ¬HasBothKeys parameters) ∧
      ∀ format ∈ Format.builtIn, ∀ document label,
        (∃ keys, format.renderWith (formatParameters changed format.name rest) document label =
            .error (.unknown format.name keys) ∧ ∃ key ∈ keys, key ∈ settingKeys) ↔
          HasBothKeys parameters := by
  obtain ⟨changed, rest, applied, takes⟩ := exists_takesSettings settings spelled
  refine ⟨changed, rest, applied, takes, ?_, fun format builtIn => takes.refused_iff builtIn⟩
  have short : "ids" ∈ settingKeys := by decide
  constructor
  · intro gone both
    have stays := (takes.contains_iff short).2 ⟨rfl, both⟩
    rw [NameMap.contains, gone _ short] at stays
    cases stays
  · intro one key standing
    refine Option.not_isSome_iff_eq_none.1 fun stays => one ?_
    exact ((takes.contains_iff standing).1 stays).2

/-- Both keys of the identifiers, a key of another setting, and one of no setting. -/
def bothKeys : Parameters :=
  .ofList [("ids", "0"), ("show-ids", "YES"), ("pretty", "n"), ("rankdir", "LR")]

theorem applyOverrides_takesSettings_bothKeys :
    (∀ key ∈ settingKeys, bothKeys.Spelled key) ∧ HasBothKeys bothKeys ∧
      ∃ changed rest, applyOverrides {} bothKeys = .ok (changed, rest) ∧
        changed.showIds = true ∧ changed.pretty = false ∧ rest.get? "pretty" = none ∧
        rest.get? "ids" = some "0" ∧ rest.get? "rankdir" = some "LR" ∧
        ∃ keys, Format.json.renderWith (formatParameters changed "json" rest) default "" =
          .error (.unknown "json" keys) ∧ ∃ key ∈ keys, key ∈ settingKeys := by
  have spelled : ∀ key ∈ settingKeys, bothKeys.Spelled key := by decide
  have both : HasBothKeys bothKeys := ⟨by decide, by decide⟩
  obtain ⟨changed, rest, applied, takes, -, refused⟩ :=
    applyOverrides_takesSettings {} bothKeys spelled
  have json : Format.json ∈ Format.builtIn := .tail _ (.tail _ (.head _))
  exact ⟨spelled, both, changed, rest, applied, takes.showIds.trans (by decide),
    takes.pretty.trans (by decide), takes.taken _ (by decide) (by decide),
    takes.shortKey.trans (by decide), (takes.others _ (by decide)).trans (by decide),
    (refused _ json _ _).2 both⟩

/-- With both keys of the identifiers one is left over, although both have truth values, and even
the format that shows identifiers refuses it. -/
theorem short_key_refused :
    ∃ parameters : Parameters, (∀ key ∈ settingKeys, parameters.Spelled key) ∧
      ∃ rest, applyOverrides {} parameters = .ok ({ showIds := true }, rest) ∧
        rest.get? "ids" = some "true" ∧ ∀ document label,
          Format.treeView.renderWith (formatParameters { showIds := true } "treeviz" rest)
            document label = .error (.unknown "treeviz" ["ids"]) := by
  let left : Parameters := .ofList [("ids", "true")]
  exact ⟨left.insert "show-ids" "true", by decide, left, by decide, by decide, fun _ _ => rfl⟩

end CommandLine

end AstView
