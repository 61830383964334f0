import AstView.FilePath
import AstView.Proofs.Utf8
import Mathlib.Data.List.TakeWhile

/-!
# Paths and the names of documents

The parts of a path are a lead, the file name and a trail. A lead is nothing or ends in a slash, and
a trail has empty segments and single dots only. Slashes divide a path into its segments
(`segments_append`, `eq_of_segments`), so the parts can be found in the segments and back again, and
a path has a file name exactly if it has these parts (`fileName_eq_some_iff`). The other paths stay
where they are or end in two dots (`fileName_eq_none_iff`).

The name of a document is read as text and then cut at its last dot. The bytes could be cut as well
before they are read (`upToLast_lossy`), for a dot ends every stretch that is not UTF-8.

The extension is the other side of the same cut: what is behind the last dot of the file name,
unless nothing is before it (`extension_eq_some_iff`).
-/
namespace AstView.FilePath

/-! ## Segments -/

/-- A path has a segment. -/
theorem segments_ne_nil (path : Bytes) : segments path ≠ [] := by
  cases path with
  | nil => exact List.cons_ne_nil _ _
  | cons next rest =>
    rw [segments]
    split
    · exact List.cons_ne_nil _ _
    · split <;> exact List.cons_ne_nil _ _

/-- A byte in front of a path belongs to its first segment, unless it is a slash. -/
theorem segments_cons {next : UInt8} (other : next ≠ slash) {path first : Bytes}
    {more : List Bytes} (split : segments path = first :: more) :
    segments (next :: path) = (next :: first) :: more := by
  rw [segments, if_neg other, split]

/-- The segments around a slash are those before it and those behind it. -/
theorem segments_append (before after : Bytes) :
    segments (before ++ slash :: after) = segments before ++ segments after := by
  induction before with
  | nil =>
    exact if_pos rfl
  | cons next before ih =>
    by_cases mark : next = slash
    · rw [List.cons_append, segments, if_pos mark, ih, segments, if_pos mark]
      rfl
    · obtain ⟨first, more, split⟩ := List.exists_cons_of_ne_nil (segments_ne_nil before)
      rw [split] at ih
      rw [List.cons_append, segments_cons mark ih, segments_cons mark split]
      rfl

/-- A name is one segment. -/
theorem segments_name {name : Bytes} (single : slash ∉ name) : segments name = [name] := by
  induction name with
  | nil => rfl
  | cons next name ih =>
    rw [List.mem_cons, not_or] at single
    obtain ⟨other, single⟩ := single
    exact segments_cons (Ne.symm other) (ih single)

/-- The first segment ends at the first slash, behind which the others are. -/
theorem eq_of_segments {path first : Bytes} {more : List Bytes}
    (split : segments path = first :: more) :
    slash ∉ first ∧ (path = first ∧ more = [] ∨
      ∃ rest, path = first ++ slash :: rest ∧ segments rest = more) := by
  induction path generalizing first with
  | nil =>
    cases split
    exact ⟨List.not_mem_nil, .inl ⟨rfl, rfl⟩⟩
  | cons next path ih =>
    by_cases mark : next = slash
    · rw [segments, if_pos mark] at split
      cases split
      exact ⟨List.not_mem_nil, .inr ⟨path, by rw [mark]; rfl, rfl⟩⟩
    · obtain ⟨own, others, inner⟩ := List.exists_cons_of_ne_nil (segments_ne_nil path)
      rw [segments_cons mark inner] at split
      cases split
      obtain ⟨single, whole⟩ := ih inner
      refine ⟨mt List.mem_cons.1 (not_or.2 ⟨Ne.symm mark, single⟩), ?_⟩
      obtain ⟨same, none⟩ | ⟨rest, same, left⟩ := whole
      · exact .inl ⟨by rw [same], none⟩
      · exact .inr ⟨rest, by rw [same]; rfl, left⟩

/-! ## Parts of a path -/

/-- What may stand before a segment: nothing, or a path that ends in a slash. -/
def IsLead (lead : Bytes) : Prop := lead = [] ∨ lead.getLast? = some slash

/-- What may stand behind a segment and leads nowhere else: slashes, and single dots behind
slashes. -/
inductive IsTrail : Bytes → Prop
  /-- Nothing. -/
  | nil : IsTrail []
  /-- An empty segment. -/
  | empty {rest : Bytes} (trail : IsTrail rest) : IsTrail (slash :: rest)
  /-- A single dot. -/
  | here {rest : Bytes} (trail : IsTrail rest) : IsTrail (slash :: dot :: rest)

/-- The segments behind a lead are the last ones. -/
theorem segments_lead {lead : Bytes} (leads : IsLead lead) (path : Bytes) :
    ∃ front, segments (lead ++ path) = front ++ segments path := by
  obtain rfl | last := leads
  · exact ⟨[], rfl⟩
  · obtain ⟨above, rfl⟩ := List.getLast?_eq_some_iff.1 last
    refine ⟨segments above, ?_⟩
    rw [List.append_assoc, List.singleton_append, segments_append]

/-- The segments of a trail stay where they are. -/
theorem segments_trail {tail : Bytes} (trail : IsTrail tail) (path : Bytes) :
    ∃ heres, segments (path ++ tail) = segments path ++ heres ∧
      ∀ segment ∈ heres, isHere segment = true := by
  induction trail generalizing path with
  | nil => exact ⟨[], by rw [List.append_nil, List.append_nil], nofun⟩
  | empty _ ih =>
    obtain ⟨heres, same, all⟩ := ih []
    refine ⟨[] :: heres, ?_, List.forall_mem_cons.2 ⟨rfl, all⟩⟩
    rw [segments_append]
    exact congrArg _ same
  | here _ ih =>
    obtain ⟨heres, same, all⟩ := ih [dot]
    refine ⟨[dot] :: heres, ?_, List.forall_mem_cons.2 ⟨rfl, all⟩⟩
    rw [segments_append]
    exact congrArg _ same

/-- The last ones of the segments of a path are behind a lead. -/
theorem exists_lead {path : Bytes} {front behind : List Bytes}
    (split : segments path = front ++ behind) (filled : behind ≠ []) :
    ∃ lead rest, IsLead lead ∧ path = lead ++ rest ∧ segments rest = behind := by
  induction front generalizing path with
  | nil => exact ⟨[], path, .inl rfl, rfl, split⟩
  | cons first front ih =>
    obtain ⟨_, ⟨_, none⟩ | ⟨rest, same, left⟩⟩ := eq_of_segments split
    · exact absurd (List.append_eq_nil_iff.1 none).2 filled
    · obtain ⟨lead, last, leads, whole, own⟩ := ih left
      refine ⟨first ++ slash :: lead, last, .inr ?_, by rw [same, whole]; simp, own⟩
      obtain rfl | ends := leads
      · simp
      · rw [List.getLast?_append, List.getLast?_cons, ends]
        rfl

/-- Segments that stay where they are make a trail behind the one before them. -/
theorem exists_trail {path last : Bytes} {heres : List Bytes}
    (split : segments path = last :: heres) (all : ∀ segment ∈ heres, isHere segment = true) :
    slash ∉ last ∧ ∃ tail, IsTrail tail ∧ path = last ++ tail := by
  induction heres generalizing path last with
  | nil =>
    obtain ⟨single, ⟨same, _⟩ | ⟨rest, _, left⟩⟩ := eq_of_segments split
    · exact ⟨single, [], .nil, by rw [same, List.append_nil]⟩
    · exact absurd left (segments_ne_nil rest)
  | cons here heres ih =>
    obtain ⟨single, ⟨_, none⟩ | ⟨rest, same, left⟩⟩ := eq_of_segments split
    · cases none
    · obtain ⟨stays, others⟩ := List.forall_mem_cons.1 all
      obtain ⟨-, tail, trail, whole⟩ := ih left others
      refine ⟨single, slash :: rest, ?_, same⟩
      rw [isHere, Bool.or_eq_true, beq_iff_eq, beq_iff_eq] at stays
      obtain rfl | rfl := stays
      · exact whole ▸ .empty trail
      · exact whole ▸ .here trail

/-! ## File names -/

/-- The parts of a path that has a file name. -/
structure Leads (lead name tail : Bytes) : Prop where
  /-- The name is behind a slash, or the path begins with it. -/
  lead : IsLead lead
  /-- The name is not empty. -/
  filled : name ≠ []
  /-- The name is one segment. -/
  single : slash ∉ name
  /-- The name is no single dot. -/
  notHere : name ≠ [dot]
  /-- The name is not two dots. -/
  notUp : name ≠ [dot, dot]
  /-- Nothing behind the name leads anywhere else. -/
  tail : IsTrail tail

/-- A segment that leads to another place is neither empty nor a single dot. -/
theorem isHere_eq_false {segment : Bytes} :
    isHere segment = false ↔ segment ≠ [] ∧ segment ≠ [dot] := by
  simp only [isHere, Bool.or_eq_false_iff, beq_eq_false_iff_ne]

/-- The file name is the last segment that leads to another place, if that one leads down. -/
theorem fileName_of_segments {path last : Bytes} {front heres : List Bytes}
    (split : segments path = front ++ last :: heres) (away : isHere last = false)
    (all : ∀ segment ∈ heres, isHere segment = true) :
    fileName path = if isUp last then none else some last := by
  have reversed : (segments path).reverse.dropWhile isHere = last :: front.reverse := by
    have skipped : heres.reverse.dropWhile isHere = [] :=
      List.dropWhile_eq_nil_iff.2 fun segment inside => all segment (List.mem_reverse.1 inside)
    rw [split, List.reverse_append, List.reverse_cons, List.append_assoc, List.dropWhile_append,
      skipped, List.isEmpty_nil, if_pos rfl]
    exact List.dropWhile_cons_of_neg (by rw [away]; exact Bool.false_ne_true)
  rw [fileName, reversed]

/-- There is no file name if no segment leads to another place. -/
theorem fileName_of_stay {path : Bytes}
    (all : ∀ segment ∈ segments path, isHere segment = true) : fileName path = none := by
  have skipped : (segments path).reverse.dropWhile isHere = [] :=
    List.dropWhile_eq_nil_iff.2 fun segment inside => all segment (List.mem_reverse.1 inside)
  rw [fileName, skipped]

/-- The segments of a path stay where they are, or the last one that does not is followed by such
that do. -/
theorem segments_cases (path : Bytes) :
    (∀ segment ∈ segments path, isHere segment = true) ∨
      ∃ front last heres, segments path = front ++ last :: heres ∧ isHere last = false ∧
        ∀ segment ∈ heres, isHere segment = true := by
  cases found : (segments path).reverse.find? fun segment => !isHere segment with
  | none =>
    refine .inl fun segment inside => ?_
    simpa using List.find?_eq_none.1 found segment (List.mem_reverse.2 inside)
  | some last =>
    obtain ⟨away, after, before, split, all⟩ := List.find?_eq_some_iff_append.1 found
    refine .inr ⟨before.reverse, last, after.reverse, ?_, by simpa using away, ?_⟩
    · rw [← List.reverse_reverse (segments path), split]
      simp
    · intro segment inside
      simpa using all segment (List.mem_reverse.1 inside)

/-- A path has a file name exactly if it has the parts for it. -/
theorem fileName_eq_some_iff {path name : Bytes} :
    fileName path = some name ↔
      ∃ lead tail, Leads lead name tail ∧ path = lead ++ name ++ tail := by
  constructor
  · intro named
    obtain stay | ⟨front, last, heres, split, away, all⟩ := segments_cases path
    · rw [fileName_of_stay stay] at named
      cases named
    · rw [fileName_of_segments split away all] at named
      by_cases up : isUp last = true
      · rw [if_pos up] at named
        cases named
      · rw [if_neg up] at named
        cases named
        obtain ⟨lead, rest, leads, whole, own⟩ := exists_lead split (List.cons_ne_nil _ _)
        obtain ⟨single, tail, trail, same⟩ := exists_trail own all
        obtain ⟨filled, notHere⟩ := isHere_eq_false.1 away
        refine ⟨lead, tail, ⟨leads, filled, single, notHere, ?_, trail⟩, ?_⟩
        · simpa [isUp] using up
        · rw [whole, same, List.append_assoc]
  · rintro ⟨lead, tail, parts, rfl⟩
    obtain ⟨front, leads⟩ := segments_lead parts.lead (name ++ tail)
    obtain ⟨heres, trails, all⟩ := segments_trail parts.tail name
    have split : segments (lead ++ name ++ tail) = front ++ name :: heres := by
      rw [List.append_assoc, leads, trails, segments_name parts.single]
      rfl
    have away : isHere name = false := isHere_eq_false.2 ⟨parts.filled, parts.notHere⟩
    have down : ¬isUp name = true := by simpa [isUp] using parts.notUp
    rw [fileName_of_segments split away all, if_neg down]

/-- A path of slashes and single dots only. -/
def Stays (path : Bytes) : Prop := IsTrail (slash :: path)

/-- A path whose last segment that leads to another place is two dots. -/
def EndsUp (path : Bytes) : Prop :=
  ∃ lead tail, IsLead lead ∧ IsTrail tail ∧ path = lead ++ [dot, dot] ++ tail

/-- A path has no file name exactly if it stays where it is or leads up in the end. -/
theorem fileName_eq_none_iff {path : Bytes} :
    fileName path = none ↔ Stays path ∨ EndsUp path := by
  have slashed (path : Bytes) : segments (slash :: path) = [] :: segments path :=
    segments_append [] path
  constructor
  · intro nameless
    obtain stay | ⟨front, last, heres, split, away, all⟩ := segments_cases path
    · obtain ⟨-, tail, trail, whole⟩ := exists_trail (slashed path) stay
      rw [List.nil_append] at whole
      exact .inl (show IsTrail (slash :: path) from whole ▸ trail)
    · rw [fileName_of_segments split away all] at nameless
      by_cases up : isUp last = true
      · obtain ⟨lead, rest, leads, whole, own⟩ := exists_lead split (List.cons_ne_nil _ _)
        obtain ⟨-, tail, trail, same⟩ := exists_trail own all
        have dots : last = [dot, dot] := by simpa [isUp] using up
        exact .inr ⟨lead, tail, leads, trail, by rw [whole, same, dots, List.append_assoc]⟩
      · rw [if_neg up] at nameless
        cases nameless
  · rintro (stays | ⟨lead, tail, leads, trail, rfl⟩)
    · obtain ⟨heres, same, all⟩ := segments_trail stays []
      rw [List.nil_append, slashed] at same
      exact fileName_of_stay ((List.cons.inj same).2 ▸ all)
    · obtain ⟨front, leads⟩ := segments_lead leads ([dot, dot] ++ tail)
      obtain ⟨heres, trails, all⟩ := segments_trail trail [dot, dot]
      have split : segments (lead ++ [dot, dot] ++ tail) = front ++ [dot, dot] :: heres := by
        rw [List.append_assoc, leads, trails]
        rfl
      rw [fileName_of_segments split rfl all]
      rfl

/-! ## Names of documents -/

section
variable {α : Type} [DecidableEq α] {mark : α} {before after : List α}

/-- Without a mark there is nothing to split at. -/
theorem splitLast_eq_none {list : List α} (absent : mark ∉ list) : splitLast mark list = none := by
  induction list with
  | nil => rfl
  | cons head rest ih =>
    rw [List.mem_cons, not_or] at absent
    rw [splitLast, ih absent.2]
    exact if_neg (Ne.symm absent.1)

/-- A list is split at a mark that has no other one behind it. -/
theorem splitLast_append (absent : mark ∉ after) :
    splitLast mark (before ++ mark :: after) = some (before, after) := by
  induction before with
  | nil =>
    rw [List.nil_append, splitLast, splitLast_eq_none absent]
    exact if_pos rfl
  | cons head before ih => rw [List.cons_append, splitLast, ih]

/-- A list up to its last mark, or all of it if there is none. -/
def upToLast (mark : α) (list : List α) : List α :=
  match splitLast mark list with
  | some (before, _) => before
  | none => list

/-- What is left of a list without a mark is all of it. -/
theorem upToLast_of_not_mem {list : List α} (absent : mark ∉ list) :
    upToLast mark list = list := by
  rw [upToLast, splitLast_eq_none absent]

/-- What is left of a list is before a mark that has no other one behind it. -/
theorem upToLast_append (absent : mark ∉ after) :
    upToLast mark (before ++ mark :: after) = before := by
  rw [upToLast, splitLast_append absent]

/-- A list has no mark, or it has a last one. -/
theorem exists_last_mark (mark : α) (list : List α) :
    mark ∉ list ∨ ∃ before after, list = before ++ mark :: after ∧ mark ∉ after := by
  induction list with
  | nil => exact .inl List.not_mem_nil
  | cons head rest ih =>
    obtain absent | ⟨before, after, rfl, absent⟩ := ih
    · by_cases same : head = mark
      · exact .inr ⟨[], rest, by rw [same]; rfl, absent⟩
      · exact .inl (mt List.mem_cons.1 (not_or.2 ⟨Ne.symm same, absent⟩))
    · exact .inr ⟨head :: before, after, rfl, absent⟩

/-- A list is split at its last mark. -/
theorem splitLast_eq_some_iff {list : List α} :
    splitLast mark list = some (before, after) ↔ list = before ++ mark :: after ∧ mark ∉ after := by
  constructor
  · intro found
    obtain absent | ⟨front, back, rfl, absent⟩ := exists_last_mark mark list
    · rw [splitLast_eq_none absent] at found
      cases found
    · rw [splitLast_append absent] at found
      cases found
      exact ⟨rfl, absent⟩
  · rintro ⟨rfl, absent⟩
    exact splitLast_append absent

/-- What is left of a list was in it. -/
theorem mem_of_mem_upToLast {list : List α} {item : α} (inside : item ∈ upToLast mark list) :
    item ∈ list := by
  obtain absent | ⟨before, after, rfl, absent⟩ := exists_last_mark mark list
  · rwa [upToLast_of_not_mem absent] at inside
  · rw [upToLast_append absent] at inside
    exact List.mem_append_left _ inside

end

/-- Reading a name and leaving its extension out can change places, also where the name is not
UTF-8: a stretch of bytes that belong to no character ends before the dot. -/
theorem upToLast_lossy (name : Bytes) :
    upToLast '.' (Utf8.lossy name).toList = (Utf8.lossy (upToLast dot name)).toList := by
  have unread {bytes : Bytes} (absent : dot ∉ bytes) : '.' ∉ (Utf8.lossy bytes).toList :=
    fun read => absent (Utf8.byte_mem_of_lossy (by decide) (by decide) read)
  obtain absent | ⟨before, after, rfl, absent⟩ := exists_last_mark dot name
  · rw [upToLast_of_not_mem absent, upToLast_of_not_mem (unread absent)]
  · have read : (Utf8.lossy (before ++ dot :: after)).toList = _ :=
      Utf8.lossy_byte (show ('.').toNat < 0x80 by decide) before after
    rw [upToLast_append absent, read, upToLast_append (unread absent)]

/-- The name of a document is that of its file without the extension. -/
theorem astName_eq (path : Bytes) :
    astName path = ((fileName path).map fun name => Utf8.lossy (upToLast dot name)).getD "" := by
  have cut : astName path =
      String.ofList (upToLast '.' (((fileName path).map Utf8.lossy).getD "").toList) := by
    simp only [astName, upToLast]
    cases splitLast '.' (((fileName path).map Utf8.lossy).getD "").toList with
    | none => exact String.ofList_toList.symm
    | some parts => rfl
  rw [cut]
  cases fileName path with
  | none => rfl
  | some name =>
    simp only [Option.map_some, Option.getD_some, upToLast_lossy, String.ofList_toList]

/-- What the path of a file says about the name of its document. -/
structure Names (path : Bytes) (label : String) : Prop where
  /-- A file name with a dot counts up to the last one, whatever bytes are before that. -/
  dotted : ∀ lead before after tail, Leads lead (before ++ dot :: after) tail → dot ∉ after →
    path = lead ++ (before ++ dot :: after) ++ tail → label = Utf8.lossy before
  /-- A file name without a dot counts as a whole. -/
  plain : ∀ lead name tail, Leads lead name tail → dot ∉ name → path = lead ++ name ++ tail →
    label = Utf8.lossy name
  /-- Without a file name there is nothing. -/
  nameless : (¬∃ lead name tail, Leads lead name tail ∧ path = lead ++ name ++ tail) → label = ""
  /-- There is no slash in it. -/
  slashless : '/' ∉ label.toList

/-- The name of a document is read from the last segment of a path, behind any lead and before any
trail, up to its last dot. It is empty for all other paths, which are those that stay where they are
or lead up in the end, and there is never a slash in it. Whether bytes are read first or cut first
makes no difference. -/
theorem astName_names (path : Bytes) :
    Names path (astName path) ∧
      ((¬∃ lead name tail, Leads lead name tail ∧ path = lead ++ name ++ tail) ↔
        Stays path ∨ EndsUp path) ∧
      ∀ name : Bytes,
        upToLast '.' (Utf8.lossy name).toList = (Utf8.lossy (upToLast dot name)).toList := by
  have nameless : (¬∃ lead name tail, Leads lead name tail ∧ path = lead ++ name ++ tail) ↔
      fileName path = none := by
    rw [Option.eq_none_iff_forall_ne_some]
    simp only [ne_eq, fileName_eq_some_iff, not_exists]
    exact forall_comm
  refine ⟨⟨?_, ?_, ?_, ?_⟩, nameless.trans fileName_eq_none_iff, upToLast_lossy⟩
  · intro lead before after tail parts absent whole
    have named := fileName_eq_some_iff.2 ⟨lead, tail, parts, whole⟩
    rw [astName_eq, named, Option.map_some, upToLast_append absent]
    rfl
  · intro lead name tail parts absent whole
    have named := fileName_eq_some_iff.2 ⟨lead, tail, parts, whole⟩
    rw [astName_eq, named, Option.map_some, upToLast_of_not_mem absent]
    rfl
  · intro none
    rw [astName_eq, nameless.1 none]
    rfl
  · rw [astName_eq]
    cases named : fileName path with
    | none => exact List.not_mem_nil
    | some name =>
      obtain ⟨_, _, parts, _⟩ := fileName_eq_some_iff.1 named
      intro read
      have inside : slash ∈ upToLast dot name :=
        Utf8.byte_mem_of_lossy (show ('/').toNat < 0x80 by decide) (by decide) read
      exact parts.single (mem_of_mem_upToLast inside)

/-- The first two bytes of a character of three bytes stand directly before the last dot, and
segments that lead nowhere else are around the file name. -/
theorem astName_names_truncated :
    Leads (Utf8.encode "../a.b//") ([0xE2, 0x82] ++ dot :: [120]) (Utf8.encode "/.//") ∧
      astName (Utf8.encode "../a.b//" ++ ([0xE2, 0x82] ++ dot :: [120]) ++ Utf8.encode "/.//") =
        "\uFFFD" ∧
      EndsUp (Utf8.encode "a.b/../.") ∧ astName (Utf8.encode "a.b/../.") = "" := by
  have parts : Leads (Utf8.encode "../a.b//") ([0xE2, 0x82] ++ dot :: [120])
      (Utf8.encode "/.//") :=
    ⟨.inr rfl, List.cons_ne_nil _ _, by decide, by decide, by decide, .here (.empty (.empty .nil))⟩
  have up : EndsUp (Utf8.encode "a.b/../.") :=
    ⟨Utf8.encode "a.b/", Utf8.encode "/.", .inr rfl, .here .nil, rfl⟩
  obtain ⟨named, -, -⟩ := astName_names
    (Utf8.encode "../a.b//" ++ ([0xE2, 0x82] ++ dot :: [120]) ++ Utf8.encode "/.//")
  obtain ⟨empty, others, -⟩ := astName_names (Utf8.encode "a.b/../.")
  exact ⟨parts, named.dotted _ _ _ _ parts (by decide) rfl, up,
    empty.nameless (others.2 (.inr up))⟩

/-! ## Extensions -/

/-- The extension of a path is behind the last dot of its file name, if that dot does not come
first. -/
def HasExtension (path extension : Bytes) : Prop :=
  ∃ lead stem tail, Leads lead (stem ++ dot :: extension) tail ∧ stem ≠ [] ∧ dot ∉ extension ∧
    path = lead ++ (stem ++ dot :: extension) ++ tail

/-- What is found as the extension of a path is its extension. -/
theorem extension_eq_some_iff {path after : Bytes} :
    extension path = some after ↔ HasExtension path after := by
  constructor
  · intro found
    unfold extension at found
    split at found
    · cases found
    · cases found
    · rename_i stem rest filled split
      cases found
      obtain ⟨name, named, cut⟩ := Option.bind_eq_some_iff.1 split
      obtain ⟨lead, tail, parts, whole⟩ := fileName_eq_some_iff.1 named
      obtain ⟨rfl, absent⟩ := splitLast_eq_some_iff.1 cut
      refine ⟨lead, stem, tail, parts, ?_, absent, whole⟩
      rintro rfl
      exact filled rfl
  · rintro ⟨lead, stem, tail, parts, filled, absent, whole⟩
    obtain ⟨next, more, rfl⟩ := List.exists_cons_of_ne_nil filled
    have named := fileName_eq_some_iff.2 ⟨lead, tail, parts, whole⟩
    rw [extension, named, Option.bind_some, splitLast_append absent]

/-- A path has one extension at most. -/
theorem HasExtension.unique {path first second : Bytes} (one : HasExtension path first)
    (other : HasExtension path second) : first = second := by
  have found := extension_eq_some_iff.2 one
  rw [extension_eq_some_iff.2 other] at found
  exact (Option.some.inj found).symm

end AstView.FilePath
