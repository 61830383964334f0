import AstView.Proofs.FilePath
import AstView.Proofs.Registry

/-!
# Choosing a format

A registry goes through its formats to find one that lists the extension of a file. The order of the
names is one order in which that can be done; here it is left open. In any order a format that is
found lists the extension, and none is found only if no format does (`exists_of_detectIn`,
`detectIn_eq_none_iff`). If no two formats share an extension, there is only one format to be found,
so the order makes no difference (`detectIn_congr`).

The name that is looked up is the one asked for, else the one found for the file, else a fallback
(`Candidate`), and nothing else takes its place if it is not registered (`resolveIn_eq`).
-/
namespace AstView

namespace Registry

/-! ## The formats of a registry -/

/-- The formats of a registry are those that it gives under their names. -/
theorem mem_values_iff {registry : Registry} {format : Format} :
    format ∈ registry.formats.values ↔ registry.get format.name = .ok format := by
  have found (name : String) :
      registry.get name = .ok format ↔ registry.formats.get? name = some format := by
    rw [get]
    cases registry.formats.get? name <;> simp
  rw [found, ← NameMap.mem_entries_iff, NameMap.values, List.mem_map]
  constructor
  · rintro ⟨pair, inside, rfl⟩
    rw [registry.named pair inside]
    exact inside
  · intro inside
    exact ⟨_, inside, rfl⟩

/-- What a history has last under a name has that name. -/
theorem RegisteredLast.name_eq {history : List Format} {name : String} {format : Format}
    (last : RegisteredLast history name format) : format.name = name := by
  obtain ⟨-, -, -, same, -⟩ := last
  exact same

/-- The formats of a registry made of a history are those that the history has last. -/
theorem mem_values_registerAll {history : List Format} {format : Format} :
    format ∈ (empty.registerAll history).formats.values ↔
      RegisteredLast history format.name format := by
  rw [mem_values_iff, get_eq_ok_iff]

/-! ## Detection -/

/-- A format lists the extension of a file. -/
def Lists (format : Format) (file : String) : Prop :=
  ∃ text ∈ format.extensions, FilePath.HasExtension (Utf8.encode file) (Utf8.encode text)

/-- The extension is looked for among those of the format. -/
theorem lists_iff {format : Format} {file : String} :
    lists format file = true ↔ Lists format file := by
  unfold lists Lists
  simp only [← FilePath.extension_eq_some_iff]
  cases FilePath.extension (Utf8.encode file) with
  | none => simp
  | some extension =>
    simp only [List.any_eq_true, beq_iff_eq, Option.some.injEq]
    exact exists_congr fun text => and_congr_right fun _ => eq_comm

/-- The name of the first format in some order that lists the extension of a file. -/
def detectIn (order : List Format) (file : String) : Option String :=
  (order.find? fun format => lists format file).map (·.name)

/-- A registry goes through its formats in the order of their names. -/
theorem detect_eq (registry : Registry) :
    registry.detect = detectIn registry.formats.values := rfl

section
variable {order : List Format} {file : String}

/-- What is detected is the name of a format that lists the extension. -/
theorem exists_of_detectIn {name : String} (found : detectIn order file = some name) :
    ∃ format ∈ order, format.name = name ∧ Lists format file := by
  obtain ⟨format, hit, same⟩ := Option.map_eq_some_iff.1 found
  have listed : lists format file = true :=
    List.find?_some (p := fun format => lists format file) hit
  exact ⟨format, List.mem_of_find?_eq_some hit, same, lists_iff.1 listed⟩

/-- Nothing is detected if no format lists the extension. -/
theorem detectIn_eq_none_iff :
    detectIn order file = none ↔ ∀ format ∈ order, ¬Lists format file := by
  simp only [detectIn, Option.map_eq_none_iff, List.find?_eq_none, lists_iff]

/-- Two orders of the same formats detect the same if only one name is there to be found. -/
theorem detectIn_congr {other : List Format} (same : ∀ format, format ∈ order ↔ format ∈ other)
    (single : ∀ first ∈ order, ∀ second ∈ order, Lists first file → Lists second file →
      first.name = second.name) :
    detectIn order file = detectIn other file := by
  cases found : detectIn order file with
  | none =>
    have nothing := detectIn_eq_none_iff.1 found
    symm
    apply detectIn_eq_none_iff.2
    intro format inside
    exact nothing format ((same format).2 inside)
  | some name =>
    obtain ⟨format, inside, rfl, listed⟩ := exists_of_detectIn found
    cases again : detectIn other file with
    | none =>
      exact absurd listed (detectIn_eq_none_iff.1 again format ((same format).1 inside))
    | some name =>
      obtain ⟨rival, there, rfl, alike⟩ := exists_of_detectIn again
      rw [single format inside rival ((same rival).2 there) listed alike]

end

/-! ## The candidate -/

/-- The name under which the format of an output file is looked up, by what is detected. -/
inductive Candidate (detect : String → Option String) :
    Option String → String → String → String → Prop
  /-- A name that is asked for is the candidate, whatever the file is called. -/
  | asked (name file fallback : String) : Candidate detect (some name) file fallback name
  /-- Else it is the name that is detected for the file. -/
  | detected {file name : String} (found : detect file = some name) (fallback : String) :
    Candidate detect none file fallback name
  /-- Else it is the fallback. -/
  | fallback {file : String} (nothing : detect file = none) (fallback : String) :
    Candidate detect none file fallback fallback

/-- There is one candidate. -/
theorem candidate_iff {detect : String → Option String} {explicit : Option String}
    {file fallback name : String} :
    Candidate detect explicit file fallback name ↔
      explicit.getD ((detect file).getD fallback) = name := by
  constructor
  · intro candidate
    cases candidate with
    | asked => rfl
    | detected found => rw [Option.getD_none, found, Option.getD_some]
    | fallback nothing => rw [Option.getD_none, nothing, Option.getD_none]
  · rintro rfl
    cases explicit with
    | some asked => exact .asked asked file fallback
    | none =>
      cases found : detect file with
      | some name => exact .detected found fallback
      | none => exact .fallback found fallback

/-- The name of the format for an output file, with the formats in some order. -/
def resolveIn (registry : Registry) (order : List Format) (explicit : Option String)
    (file fallback : String) : Except Error String :=
  let name := explicit.getD ((detectIn order file).getD fallback)
  (registry.get name).map fun _ => name

/-- A registry resolves with its formats in the order of their names. -/
theorem resolve_eq (registry : Registry) :
    registry.resolve = registry.resolveIn registry.formats.values := rfl

section
variable {registry : Registry} {order : List Format} {explicit : Option String}
  {file fallback : String}

/-- What is resolved is the candidate, and it is registered. -/
theorem resolveIn_eq_ok_iff {name : String} :
    registry.resolveIn order explicit file fallback = .ok name ↔
      Candidate (detectIn order) explicit file fallback name ∧
        ∃ format, registry.get name = .ok format := by
  rw [candidate_iff, resolveIn]
  cases found : registry.get (explicit.getD ((detectIn order file).getD fallback)) with
  | ok format =>
    constructor
    · rintro ⟨⟩
      exact ⟨rfl, format, found⟩
    · rintro ⟨rfl, -⟩
      rfl
  | error error =>
    constructor
    · rintro ⟨⟩
    · rintro ⟨rfl, format, there⟩
      rw [found] at there
      cases there

/-- What is not resolved is the candidate, and it is the one that is not found. -/
theorem resolveIn_eq_error_iff {error : Error} :
    registry.resolveIn order explicit file fallback = .error error ↔
      ∃ name, Candidate (detectIn order) explicit file fallback name ∧
        (¬∃ format, registry.get name = .ok format) ∧ error = .formatNotFound name := by
  simp only [candidate_iff, exists_eq_left']
  rw [resolveIn]
  cases found : registry.get (explicit.getD ((detectIn order file).getD fallback)) with
  | ok format =>
    constructor
    · rintro ⟨⟩
    · rintro ⟨missing, -⟩
      exact absurd ⟨format, rfl⟩ missing
  | error failure =>
    rw [get_error found]
    constructor
    · rintro ⟨⟩
      exact ⟨nofun, rfl⟩
    · rintro ⟨-, rfl⟩
      rfl

end

/-! ## Histories and orders -/

/-- A format is chosen as a history of registered formats says. -/
structure Selects (history : List Format) (detect : String → Option String)
    (resolve : Option String → String → String → Except Error String) : Prop where
  /-- A name that is detected for a file is registered, and the format that has it last lists the
  extension of the file. -/
  sound : ∀ file name, detect file = some name →
    ∃ format, RegisteredLast history name format ∧ Lists format file
  /-- Nothing is detected exactly if no format that has a name last lists the extension. -/
  complete : ∀ file, detect file = none ↔
    ∀ name format, RegisteredLast history name format → ¬Lists format file
  /-- The candidate is resolved exactly if it is registered. -/
  resolved : ∀ explicit file fallback name, resolve explicit file fallback = .ok name ↔
    Candidate detect explicit file fallback name ∧ ∃ format, RegisteredLast history name format
  /-- It is the one that is not found exactly if it is not registered. -/
  refused : ∀ explicit file fallback error, resolve explicit file fallback = .error error ↔
    ∃ name, Candidate detect explicit file fallback name ∧
      (¬∃ format, RegisteredLast history name format) ∧ error = .formatNotFound name
  /-- Nothing takes the place of a name that is asked for and not registered. -/
  kept : ∀ name, (¬∃ format, RegisteredLast history name format) →
    ∀ file fallback, resolve (some name) file fallback = .error (.formatNotFound name)

/-- No two formats that have their names last share an extension. -/
def Unshared (history : List Format) : Prop :=
  ∀ first second format rival, RegisteredLast history first format →
    RegisteredLast history second rival → ∀ text ∈ format.extensions, text ∈ rival.extensions →
      first = second

section
variable {history order : List Format}

/-- An order goes through the formats that the history has last. -/
theorem mem_order_iff (visits : order.Perm (empty.registerAll history).formats.values)
    {format : Format} : format ∈ order ↔ RegisteredLast history format.name format := by
  rw [visits.mem_iff, mem_values_registerAll]

/-- In every order of the registered formats one is chosen as the history says. -/
theorem selects_of_perm (visits : order.Perm (empty.registerAll history).formats.values) :
    Selects history (detectIn order) ((empty.registerAll history).resolveIn order) where
  sound file name found := by
    obtain ⟨format, inside, rfl, listed⟩ := exists_of_detectIn found
    exact ⟨format, (mem_order_iff visits).1 inside, listed⟩
  complete file := by
    rw [detectIn_eq_none_iff]
    constructor
    · intro nothing name format last
      have inside := (mem_order_iff visits).2 (last.name_eq ▸ last)
      exact nothing format inside
    · intro nothing format inside
      exact nothing format.name format ((mem_order_iff visits).1 inside)
  resolved explicit file fallback name := by
    simp only [resolveIn_eq_ok_iff, get_eq_ok_iff]
  refused explicit file fallback error := by
    simp only [resolveIn_eq_error_iff, get_eq_ok_iff]
  kept name missing file fallback := by
    simp only [resolveIn_eq_error_iff, get_eq_ok_iff]
    exact ⟨name, .asked name file fallback, missing, rfl⟩

/-- If no extension is shared, every order detects the same. -/
theorem detectIn_eq_detect (visits : order.Perm (empty.registerAll history).formats.values)
    (unshared : Unshared history) : detectIn order = (empty.registerAll history).detect := by
  funext file
  rw [detect_eq]
  apply detectIn_congr
  · intro format
    exact visits.mem_iff
  · rintro first here second there ⟨text, one, own⟩ ⟨same, other, alike⟩
    obtain rfl : text = same := Utf8.encode_injective (own.unique alike)
    exact unshared first.name second.name first second ((mem_order_iff visits).1 here)
      ((mem_order_iff visits).1 there) text one other

/-- Histories that have the same formats last make the same registry. -/
theorem registerAll_eq_of_last {other : List Format}
    (same : ∀ name format, RegisteredLast other name format ↔ RegisteredLast history name format) :
    empty.registerAll other = empty.registerAll history := by
  apply ext_get
  intro name
  have last : (under other name).getLast? = (under history name).getLast? := by
    apply Option.ext
    intro format
    rw [getLast?_under, getLast?_under, same]
  rw [get_registerAll, get_registerAll, last]

end

/-- The choice of a format is sound and complete, and it keeps to what is asked for first, what the
extension says next and the fallback last. This is so for the formats that any history has left
behind, gone through in any order. If no extension is listed by two of them, only these formats
count: neither the order in which they are gone through nor that in which they were registered
makes a difference. A history may begin with the built-in formats. -/
theorem selects_inAnyOrder (history order : List Format)
    (visits : order.Perm (empty.registerAll history).formats.values) :
    Selects history (empty.registerAll history).detect (empty.registerAll history).resolve ∧
      Selects history (detectIn order) ((empty.registerAll history).resolveIn order) ∧
      (Unshared history → ∀ other,
        (∀ name format, RegisteredLast other name format ↔ RegisteredLast history name format) →
          (empty.registerAll other).detect = detectIn order ∧
            (empty.registerAll other).resolve = (empty.registerAll history).resolveIn order) ∧
      withDefaults.registerAll history = empty.registerAll (Format.builtIn ++ history) := by
  refine ⟨selects_of_perm (.refl _), selects_of_perm visits, ?_, registerAll_withDefaults history⟩
  intro unshared other same
  have detected := detectIn_eq_detect visits unshared
  have resolved : (empty.registerAll history).resolve =
      (empty.registerAll history).resolveIn order := by
    rw [resolve_eq]
    funext explicit file fallback
    rw [resolveIn, resolveIn, detected, detect_eq]
  rw [registerAll_eq_of_last same]
  exact ⟨detected.symm, resolved⟩

/-- A format that writes nothing, for files with some extensions. -/
def listing (name : String) (extensions : List String) : Format :=
  .plain name "" extensions fun _ _ => []

/-- Two formats, one of which has taken the place of a built-in one. -/
def relisted : List Format := [.json, listing "é" ["md", "MD"], listing "json" ["txt"]]

/-- The same formats in another order, without the one that is gone. -/
def swapped : List Format := [listing "json" ["txt"], listing "é" ["md", "MD"]]

theorem selects_inAnyOrder_relisted :
    (empty.registerAll relisted).formats.values.reverse.Perm
        (empty.registerAll relisted).formats.values ∧
      Unshared relisted ∧
      (∀ name format, RegisteredLast swapped name format ↔ RegisteredLast relisted name format) ∧
      (empty.registerAll swapped).detect =
        detectIn (empty.registerAll relisted).formats.values.reverse ∧
      (empty.registerAll swapped).resolve none "a.txt/.c.MD/." "dot" = .ok "é" := by
  have named : ∀ name format, RegisteredLast relisted name format → ∀ text ∈ format.extensions,
      (name, text) ∈ [("json", "json"), ("é", "md"), ("é", "MD"), ("json", "txt")] := by
    rintro name format ⟨before, after, split, rfl, -⟩ text listed
    have inside : format ∈ relisted := by
      rw [split]
      exact List.mem_append_right _ List.mem_cons_self
    simp only [relisted, List.mem_cons, List.not_mem_nil, or_false] at inside
    obtain rfl | rfl | rfl := inside
    · obtain rfl := List.mem_singleton.1 listed
      decide
    · obtain rfl | rfl := List.mem_pair.1 listed <;> decide
    · obtain rfl := List.mem_singleton.1 listed
      decide
  have unshared : Unshared relisted := by
    intro first second format rival one other text own alike
    have left := named first format one text own
    have right := named second rival other text alike
    simp only [List.mem_cons, Prod.mk.injEq, List.not_mem_nil, or_false] at left right
    grind
  have same : ∀ name format,
      RegisteredLast swapped name format ↔ RegisteredLast relisted name format := by
    intro name format
    have last : (under swapped name).getLast? = (under relisted name).getLast? := by
      by_cases json : "json" = name
      · subst json
        rfl
      by_cases accented : "é" = name
      · subst accented
        rfl
      simp only [under, swapped, relisted, listing, Format.plain, Format.json, Format.switched,
        List.filter_cons, List.filter_nil, json, accented, decide_false, Bool.false_eq_true,
        if_false]
    rw [← getLast?_under, ← getLast?_under, last]
  have visits : (empty.registerAll relisted).formats.values.reverse.Perm
      (empty.registerAll relisted).formats.values := List.reverse_perm _
  obtain ⟨-, -, independent, -⟩ := selects_inAnyOrder relisted _ visits
  exact ⟨visits, unshared, same, (independent unshared swapped same).1, rfl⟩

end Registry

end AstView
