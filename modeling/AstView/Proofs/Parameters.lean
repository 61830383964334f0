import AstView.Parameters
import AstView.Proofs.Registry

/-!
# Given parameters

What a format sees of its parameters are the text under the key that it knows and the other keys.
Taking a key away, putting parameters over others and making them of pairs are described by what is
then found under each key (`NameMap.get?_erase`, `NameMap.get?_override`, `NameMap.get?_ofList`).
-/
namespace AstView

namespace NameMap

variable {α : Type}

/-- A map made of one pair has its value under its name and nothing else. -/
theorem get?_single (name other : String) (value : α) :
    (ofList [(name, value)]).get? other = if name = other then some value else none := by
  rw [ofList, List.foldl_cons, List.foldl_nil, get?_insert, get?_empty]

/-- Taking away what is not there changes nothing. -/
theorem erase_eq_self {map : NameMap α} {name : String} (absent : map.get? name = none) :
    map.erase name = map := by
  refine ext_get? fun other => ?_
  rw [get?_erase]
  split
  · rename_i same
    rw [← same, absent]
  · rfl

/-- Taking a name away does not change whether there is another one. -/
theorem contains_erase {map : NameMap α} {name other : String} (ne : name ≠ other) :
    (map.erase name).contains other = map.contains other := by
  rw [contains, get?_erase, if_neg ne, contains]

/-- Values come before those of the map that they are put over. -/
theorem get?_override (map other : NameMap α) (name : String) :
    (map.override other).get? name = (other.get? name).or (map.get? name) := by
  have puts (pairs : List (String × α)) (start : NameMap α)
      (sorted : pairs.Pairwise fun first second => first.1 < second.1) :
      (pairs.foldl (fun map pair => map.insert pair.1 pair.2) start).get? name =
        (lookup name pairs).or (start.get? name) := by
    induction pairs generalizing start with
    | nil => rfl
    | cons head rest ih =>
      obtain ⟨above, sortedRest⟩ := List.pairwise_cons.1 sorted
      rw [List.foldl_cons, ih _ sortedRest, get?_insert, lookup_cons]
      by_cases same : head.1 = name
      · rw [if_pos same, if_pos same, lookup_eq_none fun pair member => same ▸ above pair member]
        rfl
      · rw [if_neg same, if_neg same]
  exact puts other.entries map other.sorted

/-- Of the values under a name the first one is found. -/
theorem lookup_append (name : String) (first second : List (String × α)) :
    lookup name (first ++ second) = (lookup name first).or (lookup name second) := by
  rw [lookup, List.find?_append, Option.map_or]
  rfl

/-- Pairs put into a map one after the other come before what was there, the last one first. -/
theorem get?_foldl_insert (pairs : List (String × α)) (start : NameMap α) (name : String) :
    (pairs.foldl (fun map pair => map.insert pair.1 pair.2) start).get? name =
      (lookup name pairs.reverse).or (start.get? name) := by
  induction pairs generalizing start with
  | nil => rfl
  | cons head rest ih =>
    rw [List.foldl_cons, ih, get?_insert, List.reverse_cons, lookup_append, lookup_cons,
      Option.or_assoc]
    by_cases same : head.1 = name
    · rw [if_pos same, if_pos same, Option.some_or]
    · rw [if_neg same, if_neg same]
      rfl

/-- A map made of pairs has the value of the last one of each name. -/
theorem get?_ofList (pairs : List (String × α)) (name : String) :
    (ofList pairs).get? name = lookup name pairs.reverse := by
  rw [ofList, get?_foldl_insert, get?_empty, Option.or_none]

/-- The last pair of a name has no other one of that name behind it. -/
theorem get?_ofList_eq_some_iff {pairs : List (String × α)} {name : String} {value : α} :
    (ofList pairs).get? name = some value ↔
      ∃ before after, pairs = before ++ (name, value) :: after ∧
        ∀ later ∈ after, later.1 ≠ name := by
  rw [get?_ofList, lookup, Option.map_eq_some_iff]
  constructor
  · rintro ⟨⟨own, given⟩, found, rfl⟩
    obtain ⟨same, after, before, split, others⟩ := List.find?_eq_some_iff_append.1 found
    have name_eq : own = name := by simpa using same
    refine ⟨before.reverse, after.reverse, ?_, ?_⟩
    · rw [← List.reverse_reverse pairs, split, ← name_eq]
      simp
    · intro later inside
      simpa using others later (List.mem_reverse.1 inside)
  · rintro ⟨before, after, rfl, others⟩
    refine ⟨(name, value), List.find?_eq_some_iff_append.2 ?_, rfl⟩
    refine ⟨decide_eq_true rfl, after.reverse, before.reverse, by simp, ?_⟩
    intro later inside
    simpa using others later (List.mem_reverse.1 inside)

/-- A map made of pairs and of other pairs behind them has the values of the other ones over those
of the first ones. -/
theorem ofList_append (first second : List (String × α)) :
    ofList (first ++ second) = (ofList first).override (ofList second) := by
  apply ext_get?
  intro name
  rw [get?_override, get?_ofList second, ofList, List.foldl_append, get?_foldl_insert]
  rfl

end NameMap

namespace Parameters

/-- The truth value that the text under a key spells in any case. -/
def spelled? (parameters : Parameters) (key : String) : Option Bool :=
  (parameters.get? key).bind fun text => spelledFlag (Text.toLower text)

/-- A text under a key, if there is one, spells a truth value. -/
def Spelled (parameters : Parameters) (key : String) : Prop :=
  ∀ text, parameters.get? key = some text → (spelledFlag (Text.toLower text)).isSome = true

variable {parameters : Parameters}

instance (key : String) : Decidable (parameters.Spelled key) :=
  decidable_of_iff
    ((parameters.get? key).all fun text => (spelledFlag (Text.toLower text)).isSome) <| by
    unfold Spelled
    cases parameters.get? key <;> simp

/-- Taking a key away does not change what another one spells. -/
theorem spelled?_erase {key other : String} (ne : key ≠ other) :
    Parameters.spelled? (parameters.erase key) other = parameters.spelled? other := by
  rw [spelled?, NameMap.get?_erase, if_neg ne, spelled?]

/-- A truth value under a key stays one when another key is taken away. -/
theorem Spelled.erase {other : String} (spelled : parameters.Spelled other) (key : String) :
    Parameters.Spelled (parameters.erase key) other := by
  intro text found
  rw [NameMap.get?_erase] at found
  split at found
  · cases found
  · exact spelled text found

/-- A key under which there is a truth value spells one. -/
theorem Spelled.isSome_spelled? {key : String} (spelled : parameters.Spelled key) :
    (parameters.spelled? key).isSome = parameters.contains key := by
  unfold spelled? NameMap.contains
  cases found : parameters.get? key with
  | none => rfl
  | some text => simpa using spelled text found

/-- A format does not know what is there under a name that it does not know. -/
theorem mem_unknownKeys {known : List String} {name : String} :
    name ∈ parameters.unknownKeys known ↔ parameters.contains name = true ∧ name ∉ known := by
  simp [unknownKeys, NameMap.mem_names_iff]

end Parameters

end AstView
