import AstView.CommandLine.Extras
import AstView.Proofs.Parameters

/-!
# Dividing an argument list

The arguments are divided from left to right. What one part takes depends on its first argument and,
if that is a flag, on the one behind it (`parts_kept`, `parts_lone`, `parts_valued`), and no value
begins with a hyphen, so no flag is taken for a value. That makes an induction over the list with
one case for each kind of part (`arguments_induction`).

The parts of a list are its only division into arguments that are kept and flags with the values
behind them (`Divides.eq_parts`), so nothing is lost and nothing is taken twice. Two lists behind
each other have the parts of both, unless the first one ends in a flag and the second one begins
with a value for it (`parts_append`).
-/
namespace AstView.CommandLine

/-! ## Flags -/

/-- An argument that begins with a marker. -/
def IsFlag (argument : String) : Prop :=
  ∃ (marker : Marker) (key : String), argument = marker.text ++ key

/-- What is left of a text is behind what it begins with. -/
theorem strip_eq_some_iff {start text rest : String} :
    strip start text = some rest ↔ text = start ++ rest := by
  unfold strip
  constructor
  · intro found
    split at found
    · rename_i begins
      obtain ⟨chars, whole⟩ := List.isPrefixOf_iff_prefix.1 begins
      cases found
      apply String.toList_inj.1
      rw [String.toList_append, String.toList_ofList, ← whole, List.drop_left]
    · cases found
  · rintro rfl
    have begins : start.toList.isPrefixOf (start ++ rest).toList = true := by
      rw [String.toList_append]
      exact List.isPrefixOf_iff_prefix.2 (List.prefix_append _ _)
    rw [if_pos begins, String.toList_append, List.drop_left, String.ofList_toList]

/-- A flag is read as its marker and its key. -/
theorem readFlag_text (marker : Marker) (key : String) :
    readFlag (marker.text ++ key) = some (marker, key) := by
  cases marker with
  | extra => rw [readFlag, strip_eq_some_iff.2 rfl]
  | extras =>
    have other : strip Marker.extra.text (Marker.extras.text ++ key) = none := by
      rw [strip, String.toList_append]
      rfl
    rw [readFlag, other, strip_eq_some_iff.2 rfl]
    rfl

/-- What is read as a flag begins with the marker that is read. -/
theorem eq_of_readFlag {argument key : String} {marker : Marker}
    (read : readFlag argument = some (marker, key)) : argument = marker.text ++ key := by
  unfold readFlag at read
  split at read
  · rename_i rest found
    cases read
    exact strip_eq_some_iff.1 found
  · obtain ⟨rest, found, same⟩ := Option.map_eq_some_iff.1 read
    cases same
    exact strip_eq_some_iff.1 found

/-- What is not read as a flag is none. -/
theorem readFlag_eq_none_iff {argument : String} : readFlag argument = none ↔ ¬IsFlag argument := by
  constructor
  · rintro unread ⟨marker, key, rfl⟩
    rw [readFlag_text] at unread
    cases unread
  · intro plain
    cases read : readFlag argument with
    | none => rfl
    | some found => exact absurd ⟨found.1, found.2, eq_of_readFlag read⟩ plain

instance (argument : String) : Decidable (IsFlag argument) :=
  decidable_of_iff (readFlag argument ≠ none) <| by
    rw [ne_eq, readFlag_eq_none_iff, Classical.not_not]

/-- A flag begins with a hyphen. -/
theorem isHyphenated_flag (marker : Marker) (key : String) :
    isHyphenated (marker.text ++ key) = true := by
  rw [isHyphenated, String.toList_append]
  cases marker <;> rfl

/-- What does not begin with a hyphen is no flag. -/
theorem not_isFlag {argument : String} (free : isHyphenated argument = false) :
    ¬IsFlag argument := by
  rintro ⟨marker, key, rfl⟩
  rw [isHyphenated_flag] at free
  cases free

/-! ## One part after the other -/

/-- The value for a flag that arguments behind it begin with: the first one, unless that begins with
a hyphen. -/
def offered (following : List String) : Option String :=
  following.head?.filter fun next => !isHyphenated next

/-- Arguments do not begin with a value for a flag in front of them: there are none, or the first
one begins with a hyphen. -/
def Valueless (following : List String) : Prop :=
  ∀ next ∈ following.head?, isHyphenated next = true

/-- Nothing is offered by arguments that do not begin with a value. -/
theorem offered_eq_none_iff {following : List String} :
    offered following = none ↔ Valueless following := by
  simp only [offered, Option.filter_eq_none_iff, Valueless, Option.mem_def, Bool.not_eq_true',
    Bool.not_eq_false]

/-- What does not begin with a hyphen is offered. -/
theorem offered_cons {value : String} (free : isHyphenated value = false)
    (following : List String) : offered (value :: following) = some value := by
  rw [offered, List.head?_cons, Option.filter_some, free]
  rfl

/-- What is offered does not begin with a hyphen. -/
theorem isHyphenated_offered {following : List String} {value : String}
    (found : offered following = some value) : isHyphenated value = false := by
  simpa using (Option.filter_eq_some_iff.1 found).2

/-- The first argument is kept if it is no flag. -/
theorem parts_kept {argument : String} (plain : ¬IsFlag argument) (following : List String) :
    parts (argument :: following) = .kept argument :: parts following := by
  have unread := readFlag_eq_none_iff.2 plain
  cases following with
  | nil => simp only [parts, unread]
  | cons next rest => simp only [parts, unread]

/-- A flag stands alone if no value follows. -/
theorem parts_lone (marker : Marker) (key : String) {following : List String}
    (valueless : Valueless following) :
    parts ((marker.text ++ key) :: following) = .flag marker key none :: parts following := by
  cases following with
  | nil => simp only [parts, readFlag_text]
  | cons next rest =>
    have hyphenated := valueless next rfl
    simp only [parts, readFlag_text, hyphenated, if_true]

/-- A flag takes the value that follows. -/
theorem parts_valued (marker : Marker) (key : String) {value : String}
    (free : isHyphenated value = false) (following : List String) :
    parts ((marker.text ++ key) :: value :: following) =
      .flag marker key (some value) :: parts following := by
  simp only [parts, readFlag_text, free, Bool.false_eq_true, if_false]

/-- Induction over an argument list, one part at a time. -/
theorem arguments_induction {motive : List String → Prop} (nil : motive [])
    (kept : ∀ argument following, ¬IsFlag argument → motive following →
      motive (argument :: following))
    (lone : ∀ (marker : Marker) key following, Valueless following → motive following →
      motive ((marker.text ++ key) :: following))
    (valued : ∀ (marker : Marker) key value following, isHyphenated value = false →
      motive following → motive ((marker.text ++ key) :: value :: following))
    (arguments : List String) : motive arguments := by
  induction arguments using parts.induct with
  | case1 => exact nil
  | case2 last unread => exact kept last [] (readFlag_eq_none_iff.1 unread) nil
  | case3 last marker key read =>
    rw [eq_of_readFlag read]
    exact lone marker key [] nofun nil
  | case4 first second rest unread ih =>
    exact kept first (second :: rest) (readFlag_eq_none_iff.1 unread) ih
  | case5 first second rest marker key read hyphenated ih =>
    rw [eq_of_readFlag read]
    refine lone marker key (second :: rest) ?_ ih
    rintro next ⟨⟩
    exact hyphenated
  | case6 first second rest marker key read free ih =>
    rw [eq_of_readFlag read]
    exact valued marker key second rest (Bool.not_eq_true _ ▸ free) ih

/-! ## Divisions -/

/-- The arguments that a part is made of. -/
def Part.arguments : Part → List String
  | kept argument => [argument]
  | flag marker key value => (marker.text ++ key) :: value.toList

/-- Some parts are a division of an argument list. -/
structure Divides (arguments : List String) (pieces : List Part) : Prop where
  /-- Every argument belongs to one part, and the parts are in the order of the arguments, each
  value directly behind its flag. -/
  whole : pieces.flatMap Part.arguments = arguments
  /-- What is kept is no flag. -/
  plain : ∀ argument, .kept argument ∈ pieces → ¬IsFlag argument
  /-- No value begins with a hyphen. -/
  free : ∀ marker key value, .flag marker key (some value) ∈ pieces → isHyphenated value = false
  /-- The value of a flag is the argument that follows, if one does and does not begin with a
  hyphen. -/
  value : ∀ before marker key value after following,
    pieces = before ++ .flag marker key value :: after →
    arguments = before.flatMap Part.arguments ++ (marker.text ++ key) :: following →
    value = offered following

/-- A list without arguments is divided into no parts. -/
theorem Divides.nil : Divides [] [] where
  whole := rfl
  plain := nofun
  free := nofun
  value before _ _ _ _ _ split := by
    cases before <;> cases split

/-- A part in front of a division makes one. -/
theorem Divides.cons {arguments : List String} {pieces : List Part}
    (others : Divides arguments pieces) (piece : Part)
    (plain : ∀ argument, piece = .kept argument → ¬IsFlag argument)
    (value : ∀ marker key value, piece = .flag marker key value →
      value = offered (value.toList ++ arguments)) :
    Divides (piece.arguments ++ arguments) (piece :: pieces) where
  whole := by
    rw [List.flatMap_cons, others.whole]
  plain argument inside := by
    obtain same | later := List.mem_cons.1 inside
    · exact plain argument same.symm
    · exact others.plain argument later
  free marker key given inside := by
    obtain same | later := List.mem_cons.1 inside
    · exact isHyphenated_offered (value marker key (some given) same.symm).symm
    · exact others.free marker key given later
  value before marker key given after following split whole := by
    cases before with
    | nil =>
      obtain ⟨rfl, rfl⟩ := List.cons.inj split
      have behind : given.toList ++ arguments = following := (List.cons.inj whole).2
      rw [← behind]
      exact value marker key given rfl
    | cons first before =>
      obtain ⟨rfl, later⟩ := List.cons.inj split
      rw [List.flatMap_cons, List.append_assoc] at whole
      exact others.value before marker key given after following later
        (List.append_cancel_left whole)

/-- The parts behind the first one are a division of the arguments behind that. -/
theorem Divides.tail {arguments : List String} {piece : Part} {pieces : List Part}
    (divides : Divides arguments (piece :: pieces)) :
    Divides (pieces.flatMap Part.arguments) pieces where
  whole := rfl
  plain argument inside := divides.plain argument (List.mem_cons_of_mem _ inside)
  free marker key value inside := divides.free marker key value (List.mem_cons_of_mem _ inside)
  value before marker key value after following split whole := by
    apply divides.value (piece :: before) marker key value after following
    · rw [split, List.cons_append]
    · rw [← divides.whole, List.flatMap_cons, List.flatMap_cons, whole, List.append_assoc]

/-- The parts of an argument list are a division of it. -/
theorem divides_parts (arguments : List String) : Divides arguments (parts arguments) := by
  induction arguments using arguments_induction with
  | nil => exact .nil
  | kept argument following plain ih =>
    rw [parts_kept plain]
    refine ih.cons (.kept argument) ?_ nofun
    rintro _ ⟨⟩
    exact plain
  | lone marker key following valueless ih =>
    rw [parts_lone marker key valueless]
    refine ih.cons (.flag marker key none) nofun ?_
    rintro _ _ _ ⟨⟩
    exact (offered_eq_none_iff.2 valueless).symm
  | valued marker key value following free ih =>
    rw [parts_valued marker key free]
    refine ih.cons (.flag marker key (some value)) nofun ?_
    rintro _ _ _ ⟨⟩
    exact (offered_cons free following).symm

/-- There is no other division of an argument list than its parts. -/
theorem Divides.eq_parts {arguments : List String} {pieces : List Part}
    (divides : Divides arguments pieces) : pieces = parts arguments := by
  -- The first piece says what the arguments begin with, and so which part they begin with.
  induction pieces generalizing arguments with
  | nil =>
    rw [← divides.whole]
    rfl
  | cons piece pieces ih =>
    have others := ih divides.tail
    have whole := divides.whole
    cases piece with
    | kept argument =>
      have plain := divides.plain argument List.mem_cons_self
      rw [← whole, List.flatMap_cons, Part.arguments, List.singleton_append, parts_kept plain,
        ← others]
    | flag marker key value =>
      have own : value = offered (value.toList ++ pieces.flatMap Part.arguments) :=
        divides.value [] marker key value pieces _ rfl whole.symm
      cases value with
      | none =>
        have valueless : Valueless (pieces.flatMap Part.arguments) :=
          offered_eq_none_iff.1 own.symm
        rw [← whole, List.flatMap_cons, Part.arguments, Option.toList_none, List.singleton_append,
          parts_lone marker key valueless, ← others]
      | some value =>
        have free := divides.free marker key value List.mem_cons_self
        rw [← whole, List.flatMap_cons, Part.arguments, Option.toList_some, List.cons_append,
          List.singleton_append, parts_valued marker key free, ← others]

/-! ## What is kept and what is given -/

/-- Arguments that are no flags are all kept. -/
theorem parts_plain {arguments : List String} (plain : ∀ argument ∈ arguments, ¬IsFlag argument) :
    parts arguments = arguments.map .kept := by
  induction arguments with
  | nil => rfl
  | cons argument following ih =>
    obtain ⟨own, others⟩ := List.forall_mem_cons.1 plain
    rw [parts_kept own, ih others, List.map_cons]

/-- Whether a part is an argument that is no flag. -/
def Part.isKept : Part → Bool
  | kept _ => true
  | flag _ _ _ => false

/-- What parts keep are the arguments of those that are no flags, in their order. -/
theorem map_kept_filterMap (pieces : List Part) :
    (pieces.filterMap Part.kept?).map Part.kept = pieces.filter Part.isKept := by
  induction pieces with
  | nil => rfl
  | cons piece rest ih =>
    cases piece with
    | kept argument => exact congrArg (Part.kept argument :: ·) ih
    | flag marker key value => exact ih

/-- What is kept of a list is kept by one of its parts. -/
theorem mem_kept_iff {arguments : List String} {argument : String} :
    argument ∈ (splitExtras arguments).1 ↔ .kept argument ∈ parts arguments := by
  have own : argument ∈ (splitExtras arguments).1 ↔
      .kept argument ∈ (splitExtras arguments).1.map Part.kept := by
    simp only [List.mem_map, Part.kept.injEq, exists_eq_right]
  rw [own, splitExtras, map_kept_filterMap, List.mem_filter]
  exact and_iff_left rfl

/-- What is kept is no flag. -/
theorem not_isFlag_of_kept {arguments : List String} {argument : String}
    (kept : argument ∈ (splitExtras arguments).1) : ¬IsFlag argument :=
  (divides_parts arguments).plain argument (mem_kept_iff.1 kept)

/-- A key and its value come from a flag with that key. -/
theorem pair?_eq_some_iff {piece : Part} {key value : String} :
    piece.pair? = some (key, value) ↔
      ∃ marker own, piece = .flag marker key own ∧ own.getD "true" = value := by
  constructor
  · intro found
    cases piece with
    | kept argument => cases found
    | flag marker name own =>
      cases found
      exact ⟨marker, own, rfl, rfl⟩
  · rintro ⟨marker, own, rfl, rfl⟩
    rfl

/-- The last flag with a key among some parts gives it a value, which is `true` if the flag has
none. -/
def GivenLast (pieces : List Part) (key value : String) : Prop :=
  ∃ before marker own after, pieces = before ++ .flag marker key own :: after ∧
    own.getD "true" = value ∧ ∀ marker other, .flag marker key other ∉ after

/-- The map that parts give has for each key what its last flag gives. -/
theorem get?_given_iff {pieces : List Part} {key value : String} :
    (NameMap.ofList (pieces.filterMap Part.pair?)).get? key = some value ↔
      GivenLast pieces key value := by
  rw [NameMap.get?_ofList_eq_some_iff]
  constructor
  · rintro ⟨before, after, split, others⟩
    obtain ⟨front, back, rfl, -, rest⟩ := List.filterMap_eq_append_iff.1 split
    obtain ⟨between, piece, later, rfl, -, found, same⟩ := List.filterMap_eq_cons_iff.1 rest
    obtain ⟨marker, own, rfl, given⟩ := pair?_eq_some_iff.1 found
    refine ⟨front ++ between, marker, own, later, (List.append_assoc ..).symm, given, ?_⟩
    intro marker other inside
    have again : (key, other.getD "true") ∈ after := by
      rw [← same]
      exact List.mem_filterMap.2 ⟨_, inside, rfl⟩
    exact others _ again rfl
  · rintro ⟨before, marker, own, after, rfl, rfl, others⟩
    refine ⟨before.filterMap Part.pair?, after.filterMap Part.pair?, ?_, ?_⟩
    · rw [List.filterMap_append]
      rfl
    · rintro ⟨name, other⟩ inside rfl
      obtain ⟨piece, later, found⟩ := List.mem_filterMap.1 inside
      obtain ⟨marker, given, rfl, -⟩ := pair?_eq_some_iff.1 found
      exact others marker given later

/-- Splitting the extra arguments off accounts for every argument. There is one way to divide a list
into arguments that are no flags and flags with the argument behind them for a value if that does
not begin with a hyphen, and this is how the list is divided. What is left are the parts that are no
flags, all of them and in their order, no flag among them; each key has the value that its last flag
gives; and what is left has nothing more to be split off. -/
theorem splitExtras_accounts (arguments : List String) :
    (∀ pieces, Divides arguments pieces ↔ pieces = parts arguments) ∧
      (splitExtras arguments).1.map Part.kept = (parts arguments).filter Part.isKept ∧
      (∀ (marker : Marker) (key : String), marker.text ++ key ∉ (splitExtras arguments).1) ∧
      (∀ key value, (splitExtras arguments).2.get? key = some value ↔
        GivenLast (parts arguments) key value) ∧
      splitExtras (splitExtras arguments).1 = ((splitExtras arguments).1, .empty) := by
  refine ⟨?_, map_kept_filterMap _, ?_, fun key value => get?_given_iff, ?_⟩
  · intro pieces
    constructor
    · exact Divides.eq_parts
    · rintro rfl
      exact divides_parts arguments
  · intro marker key kept
    exact not_isFlag_of_kept kept ⟨marker, key, rfl⟩
  · have again : parts (splitExtras arguments).1 = (splitExtras arguments).1.map .kept :=
      parts_plain fun _ => not_isFlag_of_kept
    have kept (left : List String) : (left.map Part.kept).filterMap Part.kept? = left := by
      rw [List.filterMap_map]
      exact List.filterMap_some
    have given (left : List String) : (left.map Part.kept).filterMap Part.pair? = [] := by
      rw [List.filterMap_map]
      exact List.filterMap_eq_nil_iff.2 fun _ _ => rfl
    rw [splitExtras, again, kept, given]
    rfl

example :
    splitExtras ["a", "--extra-", "--extras-x", "1", "2", "--extra-x", "--to"] =
      (["a", "2", "--to"], .ofList [("", "true"), ("x", "true")]) := by
  decide

/-! ## Lists behind each other -/

/-- Nothing is taken across the border of two lists: the first one does not end in a flag, or the
second one does not begin with a value. -/
def Seam (first second : List String) : Prop :=
  (∀ last ∈ first.getLast?, ¬IsFlag last) ∨ Valueless second

/-- A border behind some arguments is one behind the last of them. -/
theorem Seam.tail {argument : String} {first second : List String}
    (seam : Seam (argument :: first) second) : Seam first second := by
  cases first with
  | nil => exact .inl nofun
  | cons next rest =>
    rw [Seam, List.getLast?_cons_cons] at seam
    exact seam

/-- The parts of two lists behind each other are those of both. -/
theorem parts_append {first second : List String} (seam : Seam first second) :
    parts (first ++ second) = parts first ++ parts second := by
  induction first using arguments_induction with
  | nil => rfl
  | kept argument following plain ih =>
    rw [List.cons_append, parts_kept plain, parts_kept plain, ih seam.tail, List.cons_append]
  | lone marker key following valueless ih =>
    -- The flag stands at the border exactly if nothing follows it in the first list.
    have behind : Valueless (following ++ second) := by
      cases following with
      | nil =>
        obtain plain | valueless := seam
        · exact absurd ⟨marker, key, rfl⟩ (plain _ rfl)
        · exact valueless
      | cons next rest => exact valueless
    rw [List.cons_append, parts_lone marker key behind, parts_lone marker key valueless,
      ih seam.tail, List.cons_append]
  | valued marker key value following free ih =>
    rw [List.cons_append, List.cons_append, parts_valued marker key free,
      parts_valued marker key free, ih seam.tail.tail, List.cons_append]

/-- What is kept of two lists behind each other is kept of both, and what they give is what the
second one gives over what the first one does. -/
theorem splitExtras_append {first second : List String} (seam : Seam first second) :
    splitExtras (first ++ second) =
      ((splitExtras first).1 ++ (splitExtras second).1,
        (splitExtras first).2.override (splitExtras second).2) := by
  rw [splitExtras, parts_append seam, List.filterMap_append, List.filterMap_append,
    NameMap.ofList_append]
  rfl

/-- A flag and its value keep nothing and give that value. -/
theorem splitExtras_pair (marker : Marker) (key : String) {value : String}
    (free : isHyphenated value = false) :
    splitExtras [marker.text ++ key, value] = ([], .ofList [(key, value)]) := by
  rw [splitExtras, parts_valued marker key free]
  rfl

/-- A flag with its value at a border keeps what is kept without it, and gives its value over what
is given before it and under what is given behind it. -/
theorem splitExtras_inserted {first second : List String} (seam : Seam first second)
    (marker : Marker) (key : String) {value : String} (free : isHyphenated value = false) :
    splitExtras (first ++ (marker.text ++ key) :: value :: second) =
      ((splitExtras (first ++ second)).1,
        ((splitExtras first).2.override (.ofList [(key, value)])).override
          (splitExtras second).2) := by
  have before : Seam (first ++ [marker.text ++ key, value]) second := by
    refine .inl ?_
    rw [List.getLast?_append]
    rintro last ⟨⟩
    exact not_isFlag free
  have inside : Seam first [marker.text ++ key, value] := by
    refine .inr ?_
    rintro next ⟨⟩
    exact isHyphenated_flag marker key
  calc
    splitExtras (first ++ (marker.text ++ key) :: value :: second)
      = splitExtras ((first ++ [marker.text ++ key, value]) ++ second) := by
        rw [List.append_assoc, List.cons_append, List.singleton_append]
    _ = _ := by
        rw [splitExtras_append before, splitExtras_append inside, splitExtras_append seam,
          splitExtras_pair marker key free, List.append_nil]

/-- A key has a value only if there is a flag with it among the arguments. -/
theorem exists_flag_of_given {arguments : List String} {key value : String}
    (given : (splitExtras arguments).2.get? key = some value) :
    ∃ marker : Marker, marker.text ++ key ∈ arguments := by
  obtain ⟨before, marker, own, after, split, -, -⟩ := get?_given_iff.1 given
  refine ⟨marker, ?_⟩
  have whole := (divides_parts arguments).whole
  rw [← whole, split, List.mem_flatMap]
  exact ⟨.flag marker key own, List.mem_append_right _ List.mem_cons_self, List.mem_cons_self⟩

/-- A key has no value if there is no flag with it among the arguments. -/
theorem get?_given_eq_none {arguments : List String} {key : String}
    (absent : ∀ marker : Marker, marker.text ++ key ∉ arguments) :
    (splitExtras arguments).2.get? key = none := by
  rw [Option.eq_none_iff_forall_ne_some]
  intro value given
  obtain ⟨marker, inside⟩ := exists_flag_of_given given
  exact absent marker inside

/-- Extra arguments can stand anywhere. Two lists behind each other keep what both keep and give
what both give, the second one over the first one, unless the first one ends in a flag and the
second one begins with a value. So a flag with its value at such a border changes nothing of what is
kept, and if its key is nowhere else, it makes no difference at which border it stands. -/
theorem splitExtras_anywhere (first second : List String) (seam : Seam first second) :
    splitExtras (first ++ second) =
        ((splitExtras first).1 ++ (splitExtras second).1,
          (splitExtras first).2.override (splitExtras second).2) ∧
      ∀ (marker : Marker) (key value : String), isHyphenated value = false →
        (splitExtras (first ++ (marker.text ++ key) :: value :: second)).1 =
            (splitExtras (first ++ second)).1 ∧
          ((∀ other : Marker, other.text ++ key ∉ first ++ second) →
            ∀ before after, before ++ after = first ++ second → Seam before after →
              splitExtras (before ++ (marker.text ++ key) :: value :: after) =
                ((splitExtras (first ++ second)).1,
                  (splitExtras (first ++ second)).2.insert key value)) := by
  refine ⟨splitExtras_append seam, ?_⟩
  intro marker key value free
  refine ⟨by rw [splitExtras_inserted seam marker key free], ?_⟩
  intro absent before after same border
  rw [← same] at absent ⊢
  rw [splitExtras_inserted border marker key free, splitExtras_append border]
  have later : (splitExtras after).2.get? key = none := by
    apply get?_given_eq_none
    intro other inside
    exact absent other (List.mem_append_right _ inside)
  have maps : ((splitExtras before).2.override (.ofList [(key, value)])).override
      (splitExtras after).2 =
        ((splitExtras before).2.override (splitExtras after).2).insert key value := by
    apply NameMap.ext_get?
    intro name
    rw [NameMap.get?_override, NameMap.get?_override, NameMap.get?_single, NameMap.get?_insert,
      NameMap.get?_override]
    by_cases own : key = name
    · subst own
      rw [later, if_pos rfl, if_pos rfl]
      rfl
    · rw [if_neg own, if_neg own, Option.none_or]
  rw [maps]

/-- The flag stands behind another one with its value or in front of everything. -/
theorem splitExtras_anywhere_front :
    Seam ["a.bin", "--extra-x", "1"] ["--extras-x", "--to", "dot"] ∧
      Seam [] ["a.bin", "--extra-x", "1", "--extras-x", "--to", "dot"] ∧
      splitExtras (["a.bin", "--extra-x", "1"] ++ "--extra-ids" :: "no" ::
          ["--extras-x", "--to", "dot"]) =
        splitExtras ([] ++ "--extra-ids" :: "no" ::
          ["a.bin", "--extra-x", "1", "--extras-x", "--to", "dot"]) := by
  have behind : Seam ["a.bin", "--extra-x", "1"] ["--extras-x", "--to", "dot"] := by
    refine .inl ?_
    rintro last ⟨⟩
    decide
  have front : Seam [] ["a.bin", "--extra-x", "1", "--extras-x", "--to", "dot"] := .inl nofun
  obtain ⟨-, inserted⟩ := splitExtras_anywhere _ _ behind
  have absent : ∀ other : Marker, other.text ++ "ids" ∉
      ["a.bin", "--extra-x", "1"] ++ ["--extras-x", "--to", "dot"] := by
    intro other
    cases other <;> decide
  have result := (inserted .extra "ids" "no" (by decide)).2 absent
  exact ⟨behind, front, (result _ _ rfl behind).trans (result [] _ rfl front).symm⟩

end AstView.CommandLine
