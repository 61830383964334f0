import AstView.Proofs.Parameters
import AstView.Proofs.View
import AstView.Settings

/-!
# The knobs of formats

Every built-in format has one parameter, its knob (`mem_builtIn_iff`). Rendering with parameters
looks at all keys first, then reads the value of the knob, and then emits the view of that value
(`renderWith_eq`). So there are three ends. Other keys are refused, whatever the knob says
(`writeWith_others`); a text that spells no truth value is refused (`writeWith_misspelled`); and in
all other cases the sink gets the view (`writeWith_gives`). Both refusals come before the first
byte.

Each knob has a setting too, which becomes its only parameter (`parametersFor_eq`).
-/
namespace AstView

/-- The parameter of a built-in format. -/
inductive Knob where
  /-- Whether the labels of the graph are escaped. -/
  | escapeLabels
  /-- Whether the lines of the tree view show identifiers. -/
  | showIds
  /-- Whether JSON has the pretty layout. -/
  | pretty
  deriving Repr, DecidableEq

namespace Parameters

/-- The lowercase texts that spell a truth value. -/
def spellings : Bool → List String
  | true => ["true", "1", "yes", "y"]
  | false => ["false", "0", "no", "n"]

/-- A lowercase text stands for the truth value that it spells, and no text spells both. -/
theorem spelledFlag_eq_some_iff {text : String} {value : Bool} :
    spelledFlag text = some value ↔ text ∈ spellings value := by
  have apart : ∀ text ∈ spellings false, text ∉ spellings true := by decide
  unfold spelledFlag
  cases value with
  | true =>
    constructor
    · intro read
      split at read
      · assumption
      · split at read <;> cases read
    · exact fun spells => if_pos spells
  | false =>
    constructor
    · intro read
      split at read
      · cases read
      · split at read
        · assumption
        · cases read
    · exact fun spells => (if_neg (apart text spells)).trans (if_pos spells)

/-- A text that spells no truth value is not read. -/
theorem readFlag_misspelled {text : String}
    (misspelled : ∀ value, Text.toLower text ∉ spellings value) (key : String) :
    readFlag key text = .error (.notBoolean (Text.toLower text) key) := by
  have unread : spelledFlag (Text.toLower text) = none := by
    rw [Option.eq_none_iff_forall_ne_some]
    exact fun value read => misspelled value (spelledFlag_eq_some_iff.1 read)
  rw [readFlag, unread]

end Parameters

open Parameters (spellings spelledFlag_eq_some_iff)

namespace Knob

/-- The format that has the knob. -/
def format : Knob → Format
  | escapeLabels => .dot
  | showIds => .treeView
  | pretty => .json

/-- The name of the parameter. -/
def key : Knob → String
  | escapeLabels => "escape-labels"
  | showIds => "show-ids"
  | pretty => "pretty"

/-- The value if there is no parameter. -/
def unset : Knob → Bool
  | escapeLabels => false
  | showIds => false
  | pretty => true

/-- The view that a value stands for. -/
def view : Knob → Bool → View
  | escapeLabels, value => .graph value
  | showIds, value => .tree value
  | pretty, value => .json (if value then .pretty else .compact)

/-- The built-in formats are those that have a knob. -/
theorem mem_builtIn_iff {found : Format} :
    found ∈ Format.builtIn ↔ ∃ knob : Knob, knob.format = found := by
  constructor
  · intro member
    rcases List.mem_cons.1 member with rfl | more
    · exact ⟨escapeLabels, rfl⟩
    · rcases List.mem_cons.1 more with rfl | more
      · exact ⟨showIds, rfl⟩
      · cases List.mem_singleton.1 more
        exact ⟨pretty, rfl⟩
  · rintro ⟨knob, rfl⟩
    cases knob
    · exact .head _
    · exact .tail _ (.head _)
    · exact .tail _ (.tail _ (.head _))

/-- No two knobs are of one format. -/
theorem format_injective {knob other : Knob} (same : knob.format = other.format) :
    knob = other := by
  have names : knob.format.name = other.format.name := congrArg Format.name same
  have apart : ∀ first second : Knob, first.format.name = second.format.name → first = second := by
    intro first second
    cases first <;> cases second <;> decide
  exact apart knob other names

/-- The format of a knob is registered under its name. -/
theorem get_format (knob : Knob) :
    Registry.withDefaults.get knob.format.name = .ok knob.format := by
  cases knob <;> rfl

/-- The formats of the registry are those that have a knob. -/
theorem exists_of_get {name : String} {found : Format}
    (registered : Registry.withDefaults.get name = .ok found) :
    ∃ knob : Knob, knob.format = found := by
  have last : Registry.RegisteredLast Format.builtIn name found :=
    Registry.get_eq_ok_iff.1 registered
  obtain ⟨before, after, whole, -, -⟩ := last
  exact mem_builtIn_iff.1 (whole ▸ List.mem_append_right before (.head after))

variable {knob : Knob} {parameters : Parameters}

/-- All keys are looked at, then the value of the knob is read, and then its view is emitted. -/
theorem renderWith_eq (knob : Knob) (parameters : Parameters) (document : Document)
    (label : String) :
    knob.format.renderWith parameters document label = (do
      parameters.check knob.format.name [knob.key]
      let value ← parameters.flag knob.key knob.unset
      return (knob.view value).emitter document label) := by
  cases knob <;> rfl

/-- A format emits one of its views or refuses parameters. -/
theorem renderWith_cases (knob : Knob) (parameters : Parameters) (document : Document)
    (label : String) :
    (∃ value, knob.format.renderWith parameters document label =
        .ok ((knob.view value).emitter document label)) ∨
      ∃ refusal, knob.format.renderWith parameters document label = .error refusal := by
  rw [renderWith_eq]
  cases parameters.check knob.format.name [knob.key] with
  | error refusal => exact .inr ⟨refusal, rfl⟩
  | ok passed =>
    cases parameters.flag knob.key knob.unset with
    | error refusal => exact .inr ⟨refusal, rfl⟩
    | ok value => exact .inl ⟨value, rfl⟩

/-! ## Other keys -/

/-- There is no key but that of the knob. -/
def Alone (knob : Knob) (parameters : Parameters) : Prop :=
  ∀ key, parameters.contains key = true → key = knob.key

/-- Some keys are those that are not the knob's. -/
structure Others (knob : Knob) (parameters : Parameters) (keys : List String) : Prop where
  /-- They are in strictly ascending order of their bytes, so none comes twice. -/
  ascending : keys.Pairwise fun first second => Utf8.encode first < Utf8.encode second
  /-- They are the keys of the parameters without that of the knob. -/
  mem_iff : ∀ key, key ∈ keys ↔ parameters.contains key = true ∧ key ≠ knob.key
  /-- It makes no difference in which order the parameters are gone through. -/
  sorted : ∀ order : List String, order.Nodup →
    (∀ key, key ∈ order ↔ parameters.contains key = true) →
    (order.filter fun key => key ≠ knob.key).mergeSort Registry.precedes = keys

/-- The keys that a format does not know are those that are not its knob's. -/
theorem others_unknownKeys (knob : Knob) (parameters : Parameters) :
    knob.Others parameters (parameters.unknownKeys [knob.key]) := by
  have ascending : (parameters.unknownKeys [knob.key]).Pairwise
      fun first second => Utf8.encode first < Utf8.encode second :=
    (parameters.names_sorted.filter _).imp Utf8.encode_lt_encode
  have members (key : String) : key ∈ parameters.unknownKeys [knob.key] ↔
      parameters.contains key = true ∧ key ≠ knob.key := by
    rw [Parameters.mem_unknownKeys, List.mem_singleton]
  refine ⟨ascending, members, fun order distinct same => ?_⟩
  apply Registry.mergeSort_ascending ascending (distinct.filter _)
  intro key
  rw [List.mem_filter, same, members, decide_eq_true_eq]

/-- Only one list has all other keys in order. -/
theorem Others.unique {first second : List String} (others : knob.Others parameters first)
    (same : knob.Others parameters second) : first = second := by
  have distinct := parameters.nodup_names
  rw [← others.sorted _ distinct fun _ => NameMap.mem_names_iff,
    ← same.sorted _ distinct fun _ => NameMap.mem_names_iff]

/-- Only the keys count, and not the texts under them. -/
theorem Others.congr {other : Parameters} {keys : List String}
    (others : knob.Others parameters keys)
    (same : ∀ key, other.contains key = parameters.contains key) : knob.Others other keys := by
  refine ⟨others.ascending, fun key => ?_, fun order distinct all => ?_⟩
  · rw [same, others.mem_iff]
  · exact others.sorted order distinct fun key => by rw [all, same]

/-- A format knows all keys exactly if there is none but that of its knob. -/
theorem alone_iff : knob.Alone parameters ↔ parameters.unknownKeys [knob.key] = [] := by
  simp only [List.eq_nil_iff_forall_not_mem, (others_unknownKeys knob parameters).mem_iff, not_and,
    not_not]
  rfl

/-! ## Writing with parameters -/

section
variable (document : Document) (label : String) (sink : Sink)

/-- Other keys are refused before anything else, all of them in one text. -/
theorem writeWith_others (others : ¬knob.Alone parameters) :
    knob.format.writeWith parameters document label sink =
      (sink, .error (.notSupported ("Format '" ++ knob.format.name ++
        "' does not support parameter(s): " ++
        String.intercalate ", " (parameters.unknownKeys [knob.key])))) := by
  rw [alone_iff] at others
  have refused : parameters.check knob.format.name [knob.key] =
      .error (.unknown knob.format.name (parameters.unknownKeys [knob.key])) := by
    unfold Parameters.check
    split
    · exact absurd ‹_› others
    · rfl
  rw [Format.writeWith, renderWith_eq, refused]
  rfl

/-- Without other keys the value of the knob counts. -/
theorem writeWith_alone (alone : knob.Alone parameters) :
    knob.format.writeWith parameters document label sink =
      match parameters.flag knob.key knob.unset with
      | .ok value => sink.put ((knob.view value).rendering document label)
      | .error refusal => (sink, .error (.ofRefusal refusal)) := by
  have passed : parameters.check knob.format.name [knob.key] = .ok () := by
    rw [Parameters.check, alone_iff.1 alone]
  rw [Format.writeWith, renderWith_eq, passed]
  cases parameters.flag knob.key knob.unset with
  | ok value => exact (knob.view value).run_emitter document label sink
  | error refusal => rfl

end

/-! ## The value of a knob -/

/-- The parameters give a value to the knob: their text spells it in any case, or it has the value
without a text. -/
def Gives (knob : Knob) (parameters : Parameters) (value : Bool) : Prop :=
  match parameters.get? knob.key with
  | none => value = knob.unset
  | some text => Text.toLower text ∈ spellings value

/-- A text under the key of the knob gives the value that it spells. -/
theorem gives_iff {text : String} (found : parameters.get? knob.key = some text) {value : Bool} :
    knob.Gives parameters value ↔ Text.toLower text ∈ spellings value := by
  rw [Gives, found]

/-- Reading the value of a knob refuses no key. -/
theorem flag_ne_unknown (name : String) (keys : List String) :
    parameters.flag knob.key knob.unset ≠ .error (.unknown name keys) := by
  unfold Parameters.flag Parameters.readFlag
  split
  · nofun
  · split <;> nofun

/-- A format refuses keys as unknown exactly if there are any and they are all the other ones. -/
theorem renderWith_unknown_iff {document : Document} {label : String} {keys : List String} :
    knob.format.renderWith parameters document label =
        .error (.unknown knob.format.name keys) ↔
      keys = parameters.unknownKeys [knob.key] ∧ keys ≠ [] := by
  rw [renderWith_eq, Parameters.check]
  cases parameters.unknownKeys [knob.key] with
  | nil =>
    refine iff_of_false (fun failed => ?_) fun ⟨same, ne⟩ => ne same
    cases read : parameters.flag knob.key knob.unset with
    | ok value =>
      rw [read] at failed
      cases failed
    | error refusal =>
      rw [read] at failed
      cases failed
      exact flag_ne_unknown _ _ read
  | cons first rest =>
    constructor
    · rintro ⟨⟩
      exact ⟨rfl, List.cons_ne_nil _ _⟩
    · rintro ⟨rfl, -⟩
      rfl

/-- A value that the parameters give is read. -/
theorem flag_eq_ok_iff {value : Bool} :
    parameters.flag knob.key knob.unset = .ok value ↔ knob.Gives parameters value := by
  unfold Parameters.flag Gives
  cases parameters.get? knob.key with
  | none =>
    simp only [Except.ok.injEq]
    exact eq_comm
  | some text =>
    simp only [Parameters.readFlag, ← spelledFlag_eq_some_iff]
    cases spelledFlag (Text.toLower text) <;> simp

/-- A text that spells no value is refused. -/
theorem flag_eq_error {text : String} (found : parameters.get? knob.key = some text)
    (misspelled : ∀ value, Text.toLower text ∉ spellings value) :
    parameters.flag knob.key knob.unset = .error (.notBoolean (Text.toLower text) knob.key) := by
  simp only [Parameters.flag, found, Parameters.readFlag_misspelled misspelled]

section
variable (document : Document) (label : String) (sink : Sink)

/-- A text that spells no value is refused before anything is written. -/
theorem writeWith_misspelled (alone : knob.Alone parameters) {text : String}
    (found : parameters.get? knob.key = some text)
    (misspelled : ∀ value, Text.toLower text ∉ spellings value) :
    knob.format.writeWith parameters document label sink =
      (sink, .error (.notSupported ("Invalid boolean value '" ++ Text.toLower text ++
        "' for '" ++ knob.key ++ "'"))) := by
  rw [writeWith_alone document label sink alone, flag_eq_error found misspelled]
  rfl

/-- The view of a value that is given is written. -/
theorem writeWith_gives (alone : knob.Alone parameters) {value : Bool}
    (given : knob.Gives parameters value) :
    knob.format.writeWith parameters document label sink =
      sink.put ((knob.view value).rendering document label) := by
  rw [writeWith_alone document label sink alone, flag_eq_ok_iff.2 given]

/-- Parameters that have the same keys and give the same value come to the same. -/
theorem writeWith_congr {other : Parameters}
    (same : ∀ key, other.contains key = parameters.contains key) {value : Bool}
    (given : knob.Gives parameters value) (again : knob.Gives other value) :
    knob.format.writeWith other document label sink =
      knob.format.writeWith parameters document label sink := by
  have alike : knob.Alone other ↔ knob.Alone parameters :=
    forall_congr' fun key => by rw [same]
  by_cases alone : knob.Alone parameters
  · rw [writeWith_gives document label sink alone given,
      writeWith_gives document label sink (alike.2 alone) again]
  · have others := (others_unknownKeys knob parameters).congr same
    have keys := (others_unknownKeys knob other).unique others
    rw [writeWith_others document label sink alone,
      writeWith_others document label sink (mt alike.1 alone), keys]

end

/-! ## Knobs and settings -/

/-- The setting that a knob has. -/
def setting : Knob → Settings → Bool
  | escapeLabels, settings => settings.escapeLabels
  | showIds, settings => settings.showIds
  | pretty, settings => settings.pretty

/-- The settings with another value for a knob. -/
def set : Knob → Settings → Bool → Settings
  | escapeLabels, settings, value => { settings with escapeLabels := value }
  | showIds, settings, value => { settings with showIds := value }
  | pretty, settings, value => { settings with pretty := value }

/-- A changed setting has the value that it was changed to. -/
theorem setting_set (knob : Knob) (settings : Settings) (value : Bool) :
    knob.setting (knob.set settings value) = value := by
  cases knob <;> rfl

/-- The default of a setting is the value without a parameter. -/
theorem setting_default (knob : Knob) : knob.setting {} = knob.unset := by
  cases knob <;> rfl

/-- The settings say one parameter to a format, the value of its knob. -/
theorem parametersFor_eq (knob : Knob) (settings : Settings) :
    settings.parametersFor knob.format.name =
      .ofList [(knob.key, Kind.flagText (knob.setting settings))] := by
  cases knob <;> rfl

/-- The settings have a parameter for a format under the key of its knob only. -/
theorem isSome_parametersFor {settings : Settings} {key : String} :
    ((settings.parametersFor knob.format.name).get? key).isSome = true ↔ key = knob.key := by
  rw [parametersFor_eq, NameMap.get?_single]
  by_cases own : knob.key = key
  · rw [if_pos own]
    exact iff_of_true rfl own.symm
  · rw [if_neg own]
    exact iff_of_false nofun (Ne.symm own)

/-- The text of a value spells it. -/
theorem flagText_spells (value : Bool) : Text.toLower (Kind.flagText value) ∈ spellings value := by
  cases value <;> decide

/-- The settings say nothing to a format but the value of its knob. -/
theorem alone_parametersFor (knob : Knob) (settings : Settings) :
    knob.Alone (settings.parametersFor knob.format.name) :=
  fun _ inside => isSome_parametersFor.1 inside

/-- The settings give a format the value of its knob. -/
theorem gives_parametersFor (knob : Knob) (settings : Settings) :
    knob.Gives (settings.parametersFor knob.format.name) (knob.setting settings) := by
  rw [parametersFor_eq, Gives, NameMap.get?_single, if_pos rfl]
  exact flagText_spells _

/-! ## Results -/

/-- What comes of writing to a sink in the format of a knob with parameters. -/
structure Validates (knob : Knob) (parameters : Parameters) (document : Document) (label : String)
    (sink : Sink) (outcome : Sink × Except Error Unit) : Prop where
  /-- Other keys are refused with nothing written, whatever is under the key of the knob. All of
  them are named. -/
  others : ¬knob.Alone parameters → ∃ keys, knob.Others parameters keys ∧
    outcome = (sink, .error (.notSupported ("Format '" ++ knob.format.name ++
      "' does not support parameter(s): " ++ String.intercalate ", " keys)))
  /-- A text that spells no truth value is refused with nothing written. -/
  misspelled : knob.Alone parameters → ∀ text, parameters.get? knob.key = some text →
    (∀ value, Text.toLower text ∉ spellings value) →
    outcome = (sink, .error (.notSupported ("Invalid boolean value '" ++ Text.toLower text ++
      "' for '" ++ knob.key ++ "'")))
  /-- Else the view of the value is written, and how that ends is the result. -/
  gives : knob.Alone parameters → ∀ value, knob.Gives parameters value →
    outcome = sink.put ((knob.view value).rendering document label)

/-- Parameters are looked at before the first byte. A format of the registry does it no other way
than by itself, and a format that is not there is not found and nothing is written. -/
theorem writeWith_validates {format : Format} (builtIn : format ∈ Format.builtIn) :
    ∃ knob : Knob, knob.format = format ∧ ∀ parameters document label sink,
      knob.Validates parameters document label sink
        (format.writeWith parameters document label sink) ∧
      Registry.withDefaults.writeWith format.name parameters document label sink =
        format.writeWith parameters document label sink ∧
      ∀ (registry : Registry) (name : String), registry.has name = false →
        registry.writeWith name parameters document label sink =
            (sink, .error (.formatNotFound name)) ∧
          registry.write name document label sink = (sink, .error (.formatNotFound name)) := by
  obtain ⟨knob, rfl⟩ := mem_builtIn_iff.1 builtIn
  refine ⟨knob, rfl, fun parameters document label sink => ⟨⟨?_, ?_, ?_⟩, ?_, ?_⟩⟩
  · intro others
    exact ⟨_, others_unknownKeys knob parameters, writeWith_others document label sink others⟩
  · intro alone text found misspelled
    exact writeWith_misspelled document label sink alone found misspelled
  · intro alone value given
    exact writeWith_gives document label sink alone given
  · exact Registry.writeWith_of_get document label sink (get_format knob) parameters
  · intro registry name missing
    exact ⟨Registry.writeWith_missing document label sink missing parameters,
      Registry.write_missing document label sink missing⟩

/-- Two keys that no format knows around a misspelled value. -/
def crowded : Parameters := .ofList [("é", "1"), ("show-ids", "maybe"), ("a", "2")]

/-- A value in capital letters. -/
def capitals : Parameters := .ofList [("show-ids", "YES")]

theorem writeWith_validates_crowded :
    Format.treeView ∈ Format.builtIn ∧
      Format.treeView.writeWith crowded {} "" (.limited 0 .stalls) =
        (.limited 0 .stalls,
          .error (.notSupported "Format 'treeviz' does not support parameter(s): a, é")) ∧
      Format.treeView.writeWith capitals {} "" (.limited 0 .stalls) =
        Sink.put (.limited 0 .stalls) ((View.tree true).rendering {} "") := by
  have member : Format.treeView ∈ Format.builtIn := .tail _ (.head _)
  obtain ⟨knob, same, validates⟩ := writeWith_validates member
  obtain rfl : knob = showIds := format_injective same
  have crowd : ¬showIds.Alone crowded := fun alone => absurd (alone "a" rfl) (by decide)
  have lone : showIds.Alone capitals := alone_iff.2 (by decide)
  have spelled : showIds.Gives capitals true :=
    (by decide : Text.toLower "YES" ∈ spellings true)
  obtain ⟨keys, others, refused⟩ := (validates crowded {} "" (.limited 0 .stalls)).1.others crowd
  have names : keys = ["a", "é"] := others.unique (others_unknownKeys showIds crowded)
  rw [names] at refused
  exact ⟨member, refused, (validates capitals {} "" _).1.gives lone true spelled⟩

end Knob

end AstView
