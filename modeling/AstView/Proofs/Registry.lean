import AstView.Proofs.Utf8
import AstView.Registry
import Mathlib.Data.List.Basic

/-!
# Histories of a registry

Formats are registered one after the other. What a registry answers depends on the last format of
each name only: a format in a history takes the place of an earlier one of the same name, and no
other name notices (`get_register`, `get_registerAll`). So the registry says which names have been
registered, in the order of their bytes, and gives for each of them the format that came last
(`LastWriteWins`), and histories that have the formats of every name in the same order make the same
registry (`registerAll_congr`).
-/
namespace AstView

namespace NameMap

variable {α : Type}

/-- The names of a map are those under which there is a value. -/
theorem mem_names_iff {map : NameMap α} {name : String} :
    name ∈ map.names ↔ map.contains name = true := by
  simp only [names, contains, get?, lookup, Option.isSome_map, List.mem_map, List.find?_isSome,
    decide_eq_true_eq]

/-- No name comes twice. -/
theorem nodup_names (map : NameMap α) : map.names.Nodup := by
  refine map.names_sorted.imp fun less equal => ?_
  rw [equal] at less
  exact String.lt_irrefl _ less

/-- Under the name of a pair there is its value. -/
theorem lookup_of_mem {pairs : List (String × α)} {pair : String × α}
    (sorted : pairs.Pairwise fun first second => first.1 < second.1) (inside : pair ∈ pairs) :
    lookup pair.1 pairs = some pair.2 := by
  induction pairs with
  | nil => cases inside
  | cons head rest ih =>
    obtain ⟨above, sortedRest⟩ := List.pairwise_cons.1 sorted
    rw [lookup_cons]
    obtain rfl | later := List.mem_cons.1 inside
    · exact if_pos rfl
    · have other : ¬head.1 = pair.1 := by
        intro same
        have less := above pair later
        rw [same] at less
        exact String.lt_irrefl _ less
      rw [if_neg other, ih sortedRest later]

/-- The pairs of a map are the names with the values under them. -/
theorem mem_entries_iff {map : NameMap α} {name : String} {value : α} :
    (name, value) ∈ map.entries ↔ map.get? name = some value := by
  constructor
  · exact lookup_of_mem map.sorted
  · intro found
    obtain ⟨pair, hit, rfl⟩ := Option.map_eq_some_iff.1 found
    have same : pair.1 = name := by simpa using List.find?_some hit
    rw [← same]
    exact List.mem_of_find?_eq_some hit

end NameMap

namespace Registry

/-! ## One format more -/

/-- A registered format is got under its name, and other names keep theirs. -/
theorem get_register (registry : Registry) (format : Format) (name : String) :
    (registry.register format).get name =
      if format.name = name then .ok format else registry.get name := by
  rw [get, register, NameMap.get?_insert]
  by_cases same : format.name = name
  · rw [if_pos same, if_pos same]
  · rw [if_neg same, if_neg same]
    rfl

/-- A name is listed if there is a format of it. -/
theorem mem_names_iff {registry : Registry} {name : String} :
    name ∈ registry.names ↔ registry.has name = true := NameMap.mem_names_iff

/-- There is a format of a name if it can be got. -/
theorem has_iff {registry : Registry} {name : String} :
    registry.has name = true ↔ ∃ format, registry.get name = .ok format := by
  rw [has, NameMap.contains, Option.isSome_iff_exists, get]
  cases registry.formats.get? name <;> simp

/-- A format that cannot be got is not found. -/
theorem get_error {registry : Registry} {name : String} {error : Error}
    (failed : registry.get name = .error error) : error = .formatNotFound name := by
  unfold get at failed
  split at failed
  · cases failed
  · cases failed
    rfl

/-- Registries that give the same formats are the same. -/
theorem ext_get {first second : Registry} (same : ∀ name, first.get name = second.get name) :
    first = second := by
  have formats : first.formats = second.formats := by
    apply NameMap.ext_get?
    intro name
    have got := same name
    unfold get at got
    split at got <;> split at got <;> simp_all
  cases first
  cases second
  cases formats
  rfl

/-! ## Writing -/

section
variable {registry : Registry} {name : String} {format : Format} (document : Document)
  (label : String) (sink : Sink)

/-- A registry writes as the format that it has. -/
theorem write_of_get (found : registry.get name = .ok format) :
    registry.write name document label sink = format.write document label sink := by
  rw [write, found]

/-- A registry renders with parameters as the format that it has. -/
theorem renderWith_of_get (found : registry.get name = .ok format) (parameters : Parameters) :
    registry.renderWith name parameters document label =
      (format.renderWith parameters document label).mapError Error.ofRefusal := by
  rw [renderWith, found]
  rfl

/-- A registry writes with parameters as the format that it has. -/
theorem writeWith_of_get (found : registry.get name = .ok format) (parameters : Parameters) :
    registry.writeWith name parameters document label sink =
      format.writeWith parameters document label sink := by
  rw [writeWith, renderWith_of_get document label found, Format.writeWith]
  cases format.renderWith parameters document label <;> rfl

/-- A registry writes nothing in a format that it does not have. -/
theorem write_missing (missing : registry.has name = false) :
    registry.write name document label sink = (sink, .error (.formatNotFound name)) := by
  cases found : registry.get name with
  | ok format => cases missing.symm.trans (has_iff.2 ⟨format, found⟩)
  | error error =>
    rw [write, found, get_error found]

/-- A registry writes nothing with parameters in a format that it does not have. -/
theorem writeWith_missing (missing : registry.has name = false) (parameters : Parameters) :
    registry.writeWith name parameters document label sink =
      (sink, .error (.formatNotFound name)) := by
  cases found : registry.get name with
  | ok format => cases missing.symm.trans (has_iff.2 ⟨format, found⟩)
  | error error =>
    rw [writeWith, renderWith, found, get_error found]
    rfl

end

/-! ## Histories -/

/-- Registers formats one after the other. -/
def registerAll (registry : Registry) (history : List Format) : Registry :=
  history.foldl register registry

/-- The formats of a name in a history. -/
def under (history : List Format) (name : String) : List Format :=
  history.filter fun format => format.name = name

/-- A history has a format as the last one of a name. -/
def RegisteredLast (history : List Format) (name : String) (format : Format) : Prop :=
  ∃ before after, history = before ++ format :: after ∧ format.name = name ∧
    ∀ later ∈ after, later.name ≠ name

/-- The last format of a name is got behind a history, and without one what was there before. -/
theorem get_registerAll (registry : Registry) (history : List Format) (name : String) :
    (registry.registerAll history).get name =
      match (under history name).getLast? with
      | some format => .ok format
      | none => registry.get name := by
  induction history generalizing registry with
  | nil => rfl
  | cons format later ih =>
    change ((registry.register format).registerAll later).get name = _
    rw [ih, get_register]
    by_cases same : format.name = name
    · have more : under (format :: later) name = format :: under later name :=
        List.filter_cons_of_pos (by simpa using same)
      rw [if_pos same, more, List.getLast?_cons]
      cases (under later name).getLast? <;> rfl
    · have more : under (format :: later) name = under later name :=
        List.filter_cons_of_neg (by simpa using same)
      rw [if_neg same, more]

/-- The last format of a name in a history has none of that name behind it. -/
theorem getLast?_under {history : List Format} {name : String} {format : Format} :
    (under history name).getLast? = some format ↔ RegisteredLast history name format := by
  rw [under, ← List.head?_reverse, ← List.filter_reverse, List.head?_filter,
    List.find?_eq_some_iff_append]
  constructor
  · rintro ⟨own, after, before, split, others⟩
    refine ⟨before.reverse, after.reverse, ?_, by simpa using own, ?_⟩
    · rw [← List.reverse_reverse history, split]
      simp
    · intro later inside
      simpa using others later (List.mem_reverse.1 inside)
  · rintro ⟨before, after, rfl, own, others⟩
    refine ⟨by simpa using own, after.reverse, before.reverse, by simp, ?_⟩
    intro later inside
    simpa using others later (List.mem_reverse.1 inside)

/-- What is got behind a history that begins with no formats is what was registered last. -/
theorem get_eq_ok_iff {history : List Format} {name : String} {format : Format} :
    (empty.registerAll history).get name = .ok format ↔ RegisteredLast history name format := by
  rw [get_registerAll, ← getLast?_under]
  cases (under history name).getLast? with
  | none => exact iff_of_false nofun nofun
  | some last => simp

/-- A history in which the formats of every name are in the same order makes the same registry. -/
theorem registerAll_congr {first second : List Format}
    (same : ∀ name, under first name = under second name) (registry : Registry) :
    registry.registerAll first = registry.registerAll second := by
  apply ext_get
  intro name
  rw [get_registerAll, get_registerAll, same]

/-- The registry with the built-in formats has a history of its own. -/
theorem registerAll_withDefaults (history : List Format) :
    withDefaults.registerAll history = empty.registerAll (Format.builtIn ++ history) :=
  List.foldl_append.symm

/-! ## What a registry answers -/

/-- Whether the bytes of a text come before those of another one or are the same. -/
def precedes (first second : String) : Bool := decide (Utf8.encode first ≤ Utf8.encode second)

/-- A registry answers as its history says. -/
structure LastWriteWins (history : List Format) (registry : Registry) : Prop where
  /-- Names are listed in strictly ascending order of their bytes. -/
  ascending : registry.names.Pairwise fun first second => Utf8.encode first < Utf8.encode second
  /-- The names are those of the formats in the history. -/
  listed : ∀ name, name ∈ registry.names ↔ ∃ format ∈ history, format.name = name
  /-- The names come to the same list if they are taken in any order and sorted by their bytes. -/
  sorted : ∀ keys : List String, keys.Nodup → (∀ name, name ∈ keys ↔ name ∈ registry.names) →
    keys.mergeSort precedes = registry.names
  /-- There is a format of every name that is listed, and of no other one. -/
  present : ∀ name, registry.has name = true ↔ name ∈ registry.names
  /-- A format can be got under every name that is listed, and under no other one. -/
  found : ∀ name, (∃ format, registry.get name = .ok format) ↔ name ∈ registry.names
  /-- It is the one that the history has last under the name. -/
  last : ∀ name format, registry.get name = .ok format ↔ RegisteredLast history name format
  /-- Under another name there is the error that says so. -/
  missing : ∀ name error, registry.get name = .error error → error = .formatNotFound name

/-- Two registries give the same answers. -/
structure SameAnswers (first second : Registry) : Prop where
  /-- They list the same names. -/
  names : first.names = second.names
  /-- They have the same names. -/
  has : ∀ name, first.has name = second.has name
  /-- They give the same formats or errors. -/
  get : ∀ name, first.get name = second.get name
  /-- They write the same to every sink. -/
  write : ∀ name document label sink,
    first.write name document label sink = second.write name document label sink
  /-- They write the same to every sink with parameters. -/
  writeWith : ∀ name parameters document label sink,
    first.writeWith name parameters document label sink =
      second.writeWith name parameters document label sink

/-- The names of a registry are in the order of their bytes. -/
theorem names_ascending (registry : Registry) :
    registry.names.Pairwise fun first second => Utf8.encode first < Utf8.encode second :=
  registry.formats.names_sorted.imp Utf8.encode_lt_encode

/-- Texts in ascending order are what the same texts in any order are sorted to. -/
theorem mergeSort_ascending {listed keys : List String}
    (ascending : listed.Pairwise fun first second => Utf8.encode first < Utf8.encode second)
    (distinct : keys.Nodup) (same : ∀ name, name ∈ keys ↔ name ∈ listed) :
    keys.mergeSort precedes = listed := by
  have apart : listed.Nodup := by
    refine ascending.imp fun less equal => ?_
    rw [equal] at less
    exact List.lt_irrefl _ less
  have members : (keys.mergeSort precedes).Perm listed :=
    (List.mergeSort_perm keys precedes).trans ((List.perm_ext_iff_of_nodup distinct apart).2 same)
  have sorted : (keys.mergeSort precedes).Pairwise (precedes · · = true) := by
    apply List.pairwise_mergeSort
    · intro first second third less more
      simp only [precedes, decide_eq_true_eq] at less more ⊢
      exact List.le_trans less more
    · intro first second
      simpa only [precedes, Bool.or_eq_true, decide_eq_true_eq] using List.le_total _ _
  have inOrder : listed.Pairwise (precedes · · = true) :=
    ascending.imp fun less => decide_eq_true (List.le_of_lt less)
  refine members.eq_of_pairwise (fun first second _ _ less more => ?_) sorted inOrder
  simp only [precedes, decide_eq_true_eq] at less more
  exact Utf8.encode_injective (List.le_antisymm less more)

/-- The names of a registry come to the same list out of any order. -/
theorem mergeSort_names {registry : Registry} {keys : List String} (distinct : keys.Nodup)
    (same : ∀ name, name ∈ keys ↔ name ∈ registry.names) :
    keys.mergeSort precedes = registry.names :=
  mergeSort_ascending registry.names_ascending distinct same

/-- A name has a last format in a history exactly if it has one. -/
theorem exists_registeredLast_iff {history : List Format} {name : String} :
    (∃ format, RegisteredLast history name format) ↔ ∃ format ∈ history, format.name = name := by
  simp only [← getLast?_under, ← Option.isSome_iff_exists, List.getLast?_isSome, under, ne_eq,
    List.filter_eq_nil_iff, decide_eq_true_eq, not_forall, not_not, exists_prop]

/-- A registry made of a history answers as the history says. -/
theorem lastWriteWins_registerAll (history : List Format) :
    LastWriteWins history (empty.registerAll history) where
  ascending := names_ascending _
  listed name := by
    rw [mem_names_iff, has_iff, ← exists_registeredLast_iff]
    exact exists_congr fun format => get_eq_ok_iff
  sorted _ distinct same := mergeSort_names distinct same
  present _ := mem_names_iff.symm
  found _ := has_iff.symm.trans mem_names_iff.symm
  last _ _ := get_eq_ok_iff
  missing _ _ := get_error

/-- A registry is a store in which the last format of a name wins. Whatever formats are registered
in whatever order, with the built-in ones there before or not, the registry lists the names of all
of them in the order of their bytes, each once, has and gives a format under these names and no
others, and gives the one that was registered last. Registering in another order in which the
formats of every name keep theirs makes no difference to any answer. -/
theorem register_lastWriteWins (history : List Format) :
    LastWriteWins history (empty.registerAll history) ∧
      LastWriteWins (Format.builtIn ++ history) (withDefaults.registerAll history) ∧
      ∀ other, (∀ name, under history name = under other name) → ∀ start : Registry,
        SameAnswers (start.registerAll history) (start.registerAll other) := by
  refine ⟨lastWriteWins_registerAll history, ?_, ?_⟩
  · rw [registerAll_withDefaults]
    exact lastWriteWins_registerAll _
  · intro other same start
    rw [registerAll_congr same start]
    exact ⟨rfl, fun _ => rfl, fun _ => rfl, fun _ _ _ _ => rfl, fun _ _ _ _ _ => rfl⟩

/-- A format that writes nothing. -/
def silent (name : String) : Format := .plain name "" [] fun _ _ => []

/-- Two new formats, one of which takes the place of a built-in one behind that. -/
def replacing : List Format := [silent "é", .json, silent "json"]

/-- The same with the formats of one name before the other format. -/
def regrouped : List Format := [.json, silent "json", silent "é"]

theorem register_lastWriteWins_replacing :
    (withDefaults.registerAll replacing).get "json" = .ok (silent "json") ∧
      (∀ name, under replacing name = under regrouped name) ∧
      SameAnswers (withDefaults.registerAll replacing) (withDefaults.registerAll regrouped) := by
  obtain ⟨-, answers, reordered⟩ := register_lastWriteWins replacing
  have json : RegisteredLast (Format.builtIn ++ replacing) "json" (silent "json") :=
    ⟨Format.builtIn ++ [silent "é", .json], [], rfl, rfl, nofun⟩
  have same : ∀ name, under replacing name = under regrouped name := by
    intro name
    by_cases own : (silent "é").name = name
    · subst own
      rfl
    · simp only [under, replacing, regrouped, List.filter_cons, List.filter_nil, own, decide_false,
        Bool.false_eq_true, if_false]
  exact ⟨(answers.last _ _).2 json, same, reordered regrouped same withDefaults⟩

end Registry

end AstView
