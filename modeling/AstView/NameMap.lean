/-!
# Maps from names

A map from names to values is a list of pairs in strictly ascending order of the names, so no
name comes twice, and two maps with the same values under the same names are equal
(`ext_get?`). Names are ordered by their characters, which is the order of their UTF-8 bytes.
-/
namespace AstView

/-- Pairs of a name and a value in strictly ascending order of the names. -/
structure NameMap (α : Type) where
  /-- The pairs. -/
  entries : List (String × α) := []
  /-- Every name is less than the names after it. -/
  sorted : entries.Pairwise (fun first second => first.1 < second.1) := by exact .nil
  deriving DecidableEq

namespace NameMap

variable {α : Type}

/-- Puts a value under a name, in the place of the one that is there. -/
def insertPair (name : String) (value : α) : List (String × α) → List (String × α)
  | [] => [(name, value)]
  | pair :: rest =>
    if name < pair.1 then (name, value) :: pair :: rest
    else if name = pair.1 then (name, value) :: rest
    else pair :: insertPair name value rest

/-- A pair of the new list is the new one or was there before. -/
theorem of_mem_insertPair {name : String} {value : α} {pairs : List (String × α)}
    {pair : String × α} (member : pair ∈ insertPair name value pairs) :
    pair = (name, value) ∨ pair ∈ pairs := by
  induction pairs with
  | nil => simpa [insertPair] using member
  | cons head rest hypothesis =>
    rw [insertPair] at member
    split at member
    · simpa using member
    · split at member
      · rcases List.mem_cons.1 member with same | later
        · exact .inl same
        · exact .inr (List.mem_cons_of_mem _ later)
      · rcases List.mem_cons.1 member with same | later
        · exact .inr (same ▸ List.mem_cons_self)
        · exact (hypothesis later).imp_right (List.mem_cons_of_mem _)

/-- Of two different names one is less than the other. -/
theorem lt_of_not_lt {first second : String} (not : ¬ first < second) (ne : first ≠ second) :
    second < first :=
  Std.lt_of_le_of_ne (String.not_lt.1 not) ne.symm

/-- Putting a value under a name keeps the order. -/
theorem insertPair_sorted {name : String} {value : α} {pairs : List (String × α)}
    (sorted : pairs.Pairwise fun first second => first.1 < second.1) :
    (insertPair name value pairs).Pairwise fun first second => first.1 < second.1 := by
  induction pairs with
  | nil => simp [insertPair]
  | cons head rest hypothesis =>
    obtain ⟨above, sortedRest⟩ := List.pairwise_cons.1 sorted
    rw [insertPair]
    split
    · rename_i less
      refine List.pairwise_cons.2 ⟨fun pair member => ?_, sorted⟩
      rcases List.mem_cons.1 member with same | later
      · exact same ▸ less
      · exact String.lt_trans less (above pair later)
    · split
      · rename_i same
        exact List.pairwise_cons.2 ⟨fun pair member => same ▸ above pair member, sortedRest⟩
      · rename_i notLess notSame
        refine List.pairwise_cons.2 ⟨fun pair member => ?_, hypothesis sortedRest⟩
        rcases of_mem_insertPair member with same | earlier
        · exact same ▸ lt_of_not_lt notLess notSame
        · exact above pair earlier

/-- The value that some pairs have under a name. -/
def lookup (name : String) (pairs : List (String × α)) : Option α :=
  (pairs.find? fun pair => pair.1 = name).map (·.2)

/-- The value under a name. -/
def get? (map : NameMap α) (name : String) : Option α := lookup name map.entries

/-- Whether there is a value under a name. -/
def contains (map : NameMap α) (name : String) : Bool := (map.get? name).isSome

/-- Puts a value under a name, in the place of the one that is there. -/
def insert (map : NameMap α) (name : String) (value : α) : NameMap α :=
  ⟨insertPair name value map.entries, insertPair_sorted map.sorted⟩

/-- Takes the value under a name away, if there is one. -/
def erase (map : NameMap α) (name : String) : NameMap α :=
  ⟨map.entries.filter fun pair => pair.1 ≠ name, map.sorted.filter _⟩

/-- The names in ascending order. -/
def names (map : NameMap α) : List String := map.entries.map (·.1)

/-- The values in the order of their names. -/
def values (map : NameMap α) : List α := map.entries.map (·.2)

/-- Whether the map has no names. -/
def isEmpty (map : NameMap α) : Bool := map.entries.isEmpty

/-- The map without names. -/
def empty : NameMap α := {}

instance : Inhabited (NameMap α) := ⟨empty⟩

/-- The values of some pairs, the later ones in the place of earlier ones of the same name. -/
def ofList (pairs : List (String × α)) : NameMap α :=
  pairs.foldl (fun map pair => map.insert pair.1 pair.2) empty

/-- The values of one map, in the place of those of another one where both have a name. -/
def override (map other : NameMap α) : NameMap α :=
  other.entries.foldl (fun map pair => map.insert pair.1 pair.2) map

/-- The names of a map are in strictly ascending order. -/
theorem names_sorted (map : NameMap α) : map.names.Pairwise (· < ·) :=
  List.pairwise_map.2 map.sorted

/-- Nothing is under any name of the map without names. -/
@[simp] theorem get?_empty (name : String) : (empty : NameMap α).get? name = none := rfl

/-- Under a name there is nothing before the pairs of greater names. -/
theorem lookup_eq_none {name : String} {pairs : List (String × α)}
    (above : ∀ pair ∈ pairs, name < pair.1) : lookup name pairs = none := by
  simp only [lookup, Option.map_eq_none_iff, List.find?_eq_none, decide_eq_true_eq]
  exact fun pair member same => String.lt_irrefl name (same ▸ above pair member)

/-- Under the name of the first pair there is its value, under another one what the rest has. -/
theorem lookup_cons (name : String) (pair : String × α) (rest : List (String × α)) :
    lookup name (pair :: rest) = if pair.1 = name then some pair.2 else lookup name rest := by
  by_cases same : pair.1 = name <;> simp [lookup, same]

/-- The value put under a name is found there, and other names keep theirs. -/
theorem lookup_insertPair {name other : String} {value : α} {pairs : List (String × α)} :
    lookup other (insertPair name value pairs)
      = if name = other then some value else lookup other pairs := by
  induction pairs with
  | nil => simp [insertPair, lookup_cons]
  | cons head rest hypothesis =>
    rw [insertPair]
    split
    · simp [lookup_cons]
    · split
      · rename_i same
        by_cases found : name = other
        · simp [lookup_cons, found]
        · have other : ¬head.1 = other := same ▸ found
          simp [lookup_cons, found, other]
      · rename_i notSame
        rw [lookup_cons, lookup_cons, hypothesis]
        by_cases found : name = other
        · have other : ¬head.1 = other := fun equal => notSame (found.trans equal.symm)
          simp [found, other]
        · simp [found]

/-- The value put under a name is found there, and other names keep theirs. -/
theorem get?_insert (map : NameMap α) (name other : String) (value : α) :
    (map.insert name value).get? other = if name = other then some value else map.get? other :=
  lookup_insertPair

/-- Nothing is found under a name taken away, and other names keep their values. -/
theorem get?_erase (map : NameMap α) (name other : String) :
    (map.erase name).get? other = if name = other then none else map.get? other := by
  simp only [get?, erase]
  induction map.entries with
  | nil => simp [lookup]
  | cons head rest hypothesis =>
    by_cases same : head.1 = name
    · rw [List.filter_cons_of_neg (by simp [same]), hypothesis, lookup_cons]
      by_cases found : name = other
      · simp [found]
      · have other : ¬head.1 = other := same ▸ found
        simp [found, other]
    · rw [List.filter_cons_of_pos (by simp [same]), lookup_cons, lookup_cons, hypothesis]
      by_cases found : name = other
      · subst found
        simp [same]
      · simp [found]

/-- Sorted pairs with the same values under the same names are the same. -/
theorem eq_of_lookup_eq {first second : List (String × α)}
    (firstSorted : first.Pairwise fun left right => left.1 < right.1)
    (secondSorted : second.Pairwise fun left right => left.1 < right.1)
    (same : ∀ name, lookup name first = lookup name second) : first = second := by
  induction first generalizing second with
  | nil =>
    cases second with
    | nil => rfl
    | cons head rest => simpa [lookup] using same head.1
  | cons head rest hypothesis =>
    cases second with
    | nil => simpa [lookup] using same head.1
    | cons other others =>
      obtain ⟨above, sortedRest⟩ := List.pairwise_cons.1 firstSorted
      obtain ⟨otherAbove, sortedOthers⟩ := List.pairwise_cons.1 secondSorted
      have keys : head.1 = other.1 := by
        refine Classical.byContradiction fun ne => ?_
        by_cases less : head.1 < other.1
        · have := same head.1
          rw [lookup_cons, if_pos rfl, lookup_eq_none fun pair member => by
            rcases List.mem_cons.1 member with equal | later
            · exact equal ▸ less
            · exact String.lt_trans less (otherAbove pair later)] at this
          cases this
        · have less := lt_of_not_lt less ne
          have := same other.1
          rw [lookup_cons _ other, if_pos rfl, lookup_eq_none fun pair member => by
            rcases List.mem_cons.1 member with equal | later
            · exact equal ▸ less
            · exact String.lt_trans less (above pair later)] at this
          cases this
      have values : head.2 = other.2 := by
        have := same head.1
        rw [lookup_cons, if_pos rfl, lookup_cons, if_pos keys.symm] at this
        exact Option.some.inj this
      rw [Prod.ext keys values]
      refine congrArg _ (hypothesis sortedRest sortedOthers fun name => ?_)
      by_cases found : head.1 = name
      · rw [lookup_eq_none fun pair member => found ▸ above pair member,
          lookup_eq_none fun pair member => found ▸ keys ▸ otherAbove pair member]
      · have := same name
        rw [lookup_cons, if_neg found, lookup_cons, if_neg (keys ▸ found)] at this
        exact this

/-- Maps with the same values under the same names are the same. -/
theorem ext_get? {first second : NameMap α} (same : ∀ name, first.get? name = second.get? name) :
    first = second := by
  obtain ⟨firstEntries, firstSorted⟩ := first
  obtain ⟨secondEntries, secondSorted⟩ := second
  have := eq_of_lookup_eq firstSorted secondSorted same
  subst this
  rfl

end NameMap

end AstView
