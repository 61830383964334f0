import AstView.Proofs.TreeView.Line

/-!
# Reading tree views

A tree view without identifiers is read back from the places of its connectors. How far in the
connector of a line stands is its depth, and the lines below it are those that follow with a greater
depth, up to the first that does not (`inner`). That is how the sections, the entries of a section
and the trees of an entry are told apart, whatever their labels are. The counts in the first line
are those of the document that the other lines are read as, so the name is what stands before them.
-/
namespace AstView.TreeView

/-! ## Lines by depth -/

/-- What a line tells: how far in it stands, and its label. -/
structure Row where
  /-- How many cells stand before the connector. -/
  depth : Nat
  /-- The label. -/
  label : String
  deriving Repr, DecidableEq

/-- Reads a line by the place of its connector, which has the first bar of the line for its second
column. -/
def readRow (line : String) : Row :=
  ⟨(line.toList.takeWhile (· != '─')).length / 2, labelOf line⟩

/-- The rows below one of a depth: those that stand further in, up to the first that does not. -/
def inner (depth : Nat) (rows : List Row) : List Row := rows.takeWhile (depth < ·.depth)

/-- The rows behind those. -/
def outer (depth : Nat) (rows : List Row) : List Row := rows.dropWhile (depth < ·.depth)

/-- The rows below a row are some of those that follow it. -/
theorem length_inner_le (depth : Nat) (rows : List Row) : (inner depth rows).length ≤ rows.length :=
  (List.takeWhile_sublist _).length_le

/-- The rows behind those are some of those that follow it. -/
theorem length_outer_le (depth : Nat) (rows : List Row) : (outer depth rows).length ≤ rows.length :=
  (List.dropWhile_sublist _).length_le

/-- Reads the trees of rows: the root of the first is the first row, and what is below that row is
below the root. -/
def readForest : List Row → Option (List Tree)
  | [] => some []
  | ⟨depth, label⟩ :: rest => do
    let kind ← Kind.read label
    let children ← readForest (inner depth rest)
    let others ← readForest (outer depth rest)
    return ⟨kind, children⟩ :: others
termination_by rows => rows.length
decreasing_by
  · exact Nat.lt_succ_of_le (length_inner_le depth rest)
  · exact Nat.lt_succ_of_le (length_outer_le depth rest)

/-- Reads the entries of rows. Below the name of an entry is one tree. -/
def readEntries : List Row → Option (List Entry)
  | [] => some []
  | ⟨depth, name⟩ :: rest => do
    let trees ← readForest (inner depth rest)
    let others ← readEntries (outer depth rest)
    match trees with
    | [tree] => return ⟨name, tree⟩ :: others
    | _ => none
termination_by rows => rows.length
decreasing_by exact Nat.lt_succ_of_le (length_outer_le depth rest)

/-- Reads the section of a role, and returns the rows behind it. -/
def readSection (role : Role) : List Row → Option (List Entry × List Row)
  | [] => none
  | ⟨depth, anchor⟩ :: rest => do
    let entries ← readEntries (inner depth rest)
    if anchor = role.anchor then some (entries, outer depth rest) else none

/-- Reads a document from the rows below the first line. -/
def readDocument (rows : List Row) : Option Document := do
  let (calls, left) ← readSection .call rows
  let (streams, left) ← readSection .stream left
  if left = [] then some ⟨calls, streams⟩ else none

/-- How many entries a document has, as the first line tells it. -/
def counts (document : Document) : String :=
  " (" ++ toString document.calls.length ++ " calls, " ++ toString document.streams.length
    ++ " streams)"

/-- Reads the name out of the first line, given the document below it. -/
def readName (document : Document) (line : String) : Option String := do
  let behind ← line.toList.dropPrefix? (Icon.document.symbol ++ " ").toList
  let name ← behind.dropSuffix? (counts document).toList
  return String.ofList name

/-- Reads the bytes of a tree view without identifiers: the name and the document. -/
def read (bytes : Bytes) : Option (String × Document) := do
  let text ← (Utf8.decode bytes).toOption
  match Text.lines text with
  | first :: rest => do
    let document ← readDocument (rest.map readRow)
    return (← readName document first, document)
  | [] => none

/-! ## The rows of a document -/

/-- What a line tells. -/
def Line.row (line : Line) : Row := ⟨line.guides.length, line.label⟩

/-- A line is read as what it tells. -/
theorem readRow_text (line : Line) : readRow (line.text false) = line.row := by
  obtain ⟨front, symbol, chars, plain, width⟩ := toList_text line
  have before : ∀ char ∈ front, (char != '─') = true :=
    fun char inside => bne_iff_ne.2 fun same => plain (same ▸ inside)
  have column : (line.text false).toList.takeWhile (· != '─') = front := by
    rw [chars, List.takeWhile_append_of_pos before]
    exact List.append_nil front
  have half : (2 * line.guides.length + 1) / 2 = line.guides.length := by omega
  rw [readRow, labelOf_text, column, width, half, Line.row]

/-- Rows that do not go on below a depth. -/
def Stops (depth : Nat) (rows : List Row) : Prop := ∀ row ∈ rows.head?, row.depth ≤ depth

section
variable {depth : Nat} {below behind : List Row} (deep : ∀ row ∈ below, depth < row.depth)
  (stops : Stops depth behind)
include deep stops

/-- The rows below a row end where those behind them begin. -/
theorem inner_append : inner depth (below ++ behind) = below := by
  have deeper : ∀ row ∈ below, decide (depth < row.depth) = true :=
    fun row inside => decide_eq_true (deep row inside)
  rw [inner, List.takeWhile_append_of_pos deeper]
  cases behind with
  | nil => exact List.append_nil below
  | cons row rest =>
    have ends : ¬depth < row.depth := Nat.not_lt.2 (stops row rfl)
    rw [List.takeWhile_cons_of_neg (by simpa using ends), List.append_nil]

/-- The rows behind those below a row are what is left. -/
theorem outer_append : outer depth (below ++ behind) = behind := by
  have deeper : ∀ row ∈ below, decide (depth < row.depth) = true :=
    fun row inside => decide_eq_true (deep row inside)
  rw [outer, List.dropWhile_append_of_pos deeper]
  cases behind with
  | nil => rfl
  | cons row rest =>
    have ends : ¬depth < row.depth := Nat.not_lt.2 (stops row rfl)
    rw [List.dropWhile_cons_of_neg (by simpa using ends)]

end

/-- The guides of the children of a node are one more than its own. -/
theorem length_below (guides : List Bool) (last : Bool) :
    (below guides last).length = guides.length + 1 := List.length_append

/-- The rows of a forest stand at its depth or further in. -/
theorem le_depth_forest (id : NodeId) (guides : List Bool) (index : Nat) (forest : List Tree) :
    ∀ row ∈ (forestLines id guides index forest).map Line.row, guides.length ≤ row.depth := by
  induction forest using Tree.forest_induction generalizing id guides index with
  | nil => exact fun _ none => absurd none List.not_mem_nil
  | cons kind children rest children_ih rest_ih =>
    intro row inside
    rw [forestLines, treeLines, List.cons_append, List.map_cons, List.map_append, List.mem_cons,
      List.mem_append] at inside
    obtain rfl | child | other := inside
    · exact Nat.le_refl _
    · have deeper := children_ih _ _ _ row child
      rw [length_below] at deeper
      omega
    · exact rest_ih _ _ _ row other

/-- The rows of entries stand at their depth or further in. -/
theorem le_depth_entries (role : Role) (guides : List Bool) (index : Nat) (entries : List Entry) :
    ∀ row ∈ (entriesLines role guides index entries).map Line.row, guides.length ≤ row.depth := by
  induction entries generalizing index with
  | nil => exact fun _ none => absurd none List.not_mem_nil
  | cons entry rest ih =>
    intro row inside
    rw [entriesLines, entryLines_eq, List.cons_append, List.map_cons, List.map_append,
      List.mem_cons, List.mem_append] at inside
    obtain rfl | tree | other := inside
    · exact Nat.le_refl _
    · have deeper := le_depth_forest _ _ _ _ row tree
      rw [length_below] at deeper
      omega
    · exact ih _ row other

/-- What is below a node stands further in than the node. -/
theorem lt_depth_of_below {guides : List Bool} {last : Bool} {rows : List Row}
    (least : ∀ row ∈ rows, (below guides last).length ≤ row.depth) :
    ∀ row ∈ rows, guides.length < row.depth := by
  intro row inside
  have deeper := least row inside
  rw [length_below] at deeper
  omega

/-- A forest begins at its depth. -/
theorem stops_forest (id : NodeId) (guides : List Bool) (index : Nat) (forest : List Tree) :
    Stops guides.length ((forestLines id guides index forest).map Line.row) := by
  cases forest with
  | nil => exact fun _ none => nomatch none
  | cons tree rest =>
    obtain ⟨kind, children⟩ := tree
    rintro row ⟨⟩
    exact Nat.le_refl _

/-- Entries begin at their depth. -/
theorem stops_entries (role : Role) (guides : List Bool) (index : Nat) (entries : List Entry) :
    Stops guides.length ((entriesLines role guides index entries).map Line.row) := by
  cases entries with
  | nil => exact fun _ none => nomatch none
  | cons entry rest =>
    rintro row ⟨⟩
    exact Nat.le_refl _

/-! ## Reading the rows -/

/-- A forest is read back from its rows, as far as the labels show it. -/
theorem readForest_rows (id : NodeId) (guides : List Bool) (index : Nat) (forest : List Tree) :
    readForest ((forestLines id guides index forest).map Line.row) =
      some (Tree.forestLossy forest) := by
  induction forest using Tree.forest_induction generalizing id guides index with
  | nil =>
    rw [forestLines, List.map_nil, readForest]
    rfl
  | cons kind children rest children_ih rest_ih =>
    have deep := lt_depth_of_below
      (le_depth_forest (id.child index) (below guides rest.isEmpty) 0 children)
    have stops := stops_forest id guides (index + 1) rest
    have split : (forestLines id guides index (⟨kind, children⟩ :: rest)).map Line.row =
        ⟨guides.length, kind.label⟩ ::
          ((forestLines (id.child index) (below guides rest.isEmpty) 0 children).map Line.row ++
            (forestLines id guides (index + 1) rest).map Line.row) := by
      rw [forestLines, treeLines, List.cons_append, List.map_cons, List.map_append]
      rfl
    rw [split, readForest, inner_append deep stops, outer_append deep stops, Kind.read_label,
      children_ih, rest_ih]
    rfl

/-- Entries are read back from their rows. -/
theorem readEntries_rows (role : Role) (guides : List Bool) (index : Nat) (entries : List Entry) :
    readEntries ((entriesLines role guides index entries).map Line.row) =
      some (entries.map Entry.lossy) := by
  induction entries generalizing index with
  | nil =>
    rw [entriesLines, List.map_nil, readEntries]
    rfl
  | cons entry rest ih =>
    have deep := lt_depth_of_below
      (le_depth_forest (.entry role index) (below guides rest.isEmpty) 0 [entry.tree])
    have stops := stops_entries role guides (index + 1) rest
    have split : (entriesLines role guides index (entry :: rest)).map Line.row =
        ⟨guides.length, entry.name⟩ ::
          ((forestLines (.entry role index) (below guides rest.isEmpty) 0 [entry.tree]).map Line.row
            ++ (entriesLines role guides (index + 1) rest).map Line.row) := by
      rw [entriesLines, entryLines_eq, List.cons_append, List.map_cons, List.map_append]
      rfl
    rw [split, readEntries, inner_append deep stops, outer_append deep stops, readForest_rows, ih]
    rfl

/-- A section is read back from its rows, whatever follows it at its depth. -/
theorem readSection_rows (role : Role) (last : Bool) (entries : List Entry) {behind : List Row}
    (stops : Stops 0 behind) :
    readSection role ((sectionLines role last entries).map Line.row ++ behind) =
      some (entries.map Entry.lossy, behind) := by
  have deep := lt_depth_of_below (le_depth_entries role (below [] last) 0 entries)
  have split : (sectionLines role last entries).map Line.row ++ behind =
      ⟨0, role.anchor⟩ :: ((entriesLines role (below [] last) 0 entries).map Line.row ++ behind) :=
    rfl
  have inside := inner_append deep stops
  have outside := outer_append deep stops
  rw [List.length_nil] at inside outside
  rw [split, readSection, inside, outside, readEntries_rows]
  exact if_pos rfl

/-- A document is read back from its rows, as far as the labels show it. -/
theorem readDocument_rows (document : Document) :
    readDocument ((lines document).map Line.row) = some document.lossy := by
  have none : Stops 0 [] := nofun
  have next : Stops 0 ((sectionLines .stream true document.streams).map Line.row) := by
    rintro row ⟨⟩
    exact Nat.le_refl 0
  have streams := readSection_rows .stream true document.streams none
  have calls := readSection_rows .call false document.calls next
  rw [List.append_nil] at streams
  rw [lines, List.map_append, readDocument, calls]
  simp only [Option.bind_eq_bind, Option.bind_some, streams, if_true]
  rfl

/-- The name is read back from the first line. -/
theorem readName_header (document : Document) (name : String) :
    readName document.lossy (header document name) = some name := by
  have same : counts document.lossy = counts document := by
    simp only [counts, Document.lossy, List.length_map]
  have whole : (header document name).toList =
      (Icon.document.symbol ++ " ").toList ++ (name.toList ++ (counts document).toList) := by
    simp only [header, counts, String.toList_append, List.append_assoc]
  have behind : (header document name).toList.dropPrefix? (Icon.document.symbol ++ " ").toList =
      some (name.toList ++ (counts document).toList) := by
    rw [whole]
    exact List.dropPrefix?_append_of_beq _ (beq_self_eq_true _)
  have front : (name.toList ++ (counts document).toList).dropSuffix? (counts document).toList =
      some name.toList :=
    List.dropSuffix?_eq_some_iff.2 ⟨_, rfl, beq_self_eq_true _⟩
  rw [readName, behind, Option.bind_eq_bind, Option.bind_some, same, front, Option.bind_some,
    String.ofList_toList]
  rfl

/-! ## How many lines there are -/

/-- A forest has a line for every value. -/
theorem length_forestLines (id : NodeId) (guides : List Bool) (index : Nat) (forest : List Tree) :
    (forestLines id guides index forest).length = Tree.forestCount forest := by
  induction forest using Tree.forest_induction generalizing id guides index with
  | nil => rfl
  | cons kind children rest children_ih rest_ih =>
    rw [forestLines, treeLines, List.length_append, List.length_cons, children_ih, rest_ih,
      Tree.forestCount, Tree.count]
    omega

/-- Entries have a line for each and one for every value. -/
theorem length_entriesLines (role : Role) (guides : List Bool) (index : Nat)
    (entries : List Entry) : (entriesLines role guides index entries).length =
      entries.length + Document.entriesCount entries := by
  induction entries generalizing index with
  | nil => rfl
  | cons entry rest ih =>
    rw [entriesLines, entryLines_eq, List.length_append, List.length_cons, length_forestLines, ih,
      List.length_cons, Document.entriesCount]
    simp only [Tree.forestCount]
    omega

/-- Below the first line there are one for each section, entry and value. -/
theorem length_lines (document : Document) : (lines document).length =
    2 + document.calls.length + document.streams.length + document.valueCount := by
  rw [lines, sectionLines, sectionLines, List.length_append, List.length_cons, List.length_cons,
    length_entriesLines, length_entriesLines, Document.valueCount]
  omega

/-! ## Texts -/

/-- The name and the document are read back from the bytes of a tree view. -/
theorem read_render (document : Document) {name : String} (oneLine : '\n' ∉ name.toList)
    (flat : document.OneLine) :
    read (render false document name).bytes = some (name, document.lossy) := by
  have rows : ((lines document).map (Line.text false)).map readRow =
      (lines document).map Line.row := by
    rw [List.map_map]
    exact List.map_congr_left fun line _ => readRow_text line
  rw [bytes_render, read, Utf8.decode_encode]
  simp only [Except.toOption, Option.bind_eq_bind, Option.bind_some, lines_treeText oneLine flat,
    rows, readDocument_rows, readName_header]
  rfl

/-- A tree view without identifiers determines its document. If neither the name nor a label has a
newline, it has a line for itself, each section, each entry and each value, and reading the bytes by
the places of the connectors gives the name and the document, with the text of each error as its
label shows it. So tree views with the same bytes have the same name and, as far as labels show
them, the same document. -/
theorem outline_determines (document : Document) (name : String) (oneLine : '\n' ∉ name.toList)
    (flat : document.OneLine) :
    (∃ text, Utf8.decode (render false document name).bytes = .ok text ∧
      (Text.lines text).length =
        3 + document.calls.length + document.streams.length + document.valueCount) ∧
    read (render false document name).bytes = some (name, document.lossy) ∧
    ∀ (other : Document) (title : String), '\n' ∉ title.toList → other.OneLine →
      (render false document name).bytes = (render false other title).bytes →
        name = title ∧ document.lossy = other.lossy := by
  refine ⟨⟨treeText false document name, ?_, ?_⟩, read_render document oneLine flat, ?_⟩
  · rw [bytes_render, Utf8.decode_encode]
  · rw [lines_treeText oneLine flat, List.length_cons, List.length_map, length_lines]
    omega
  · intro other title single otherFlat same
    have both := read_render other single otherFlat
    rw [← same, read_render document oneLine flat, Option.some.injEq, Prod.mk.injEq] at both
    exact both

/-- A document with a name that looks like the end of a first line and labels that look like
connectors. -/
def entangled : Document where
  calls := [⟨"└─ ○ NIL", ⟨.error [0xE2, 0x94, 0x80, 0xFF], [⟨.uint64 7, []⟩, .nil]⟩⟩, ⟨"", .nil⟩]
  streams := [⟨"│ ├─ ▭ a", ⟨.node (.unknown 1000), [⟨.bytes [0xAB], [.nil]⟩]⟩⟩]

theorem outline_determines_entangled :
    '\n' ∉ "x (0 calls, 0 streams)".toList ∧ entangled.OneLine ∧
      (∃ text, Utf8.decode (render false entangled "x (0 calls, 0 streams)").bytes = .ok text ∧
        (Text.lines text).length = 13) ∧
      read (render false entangled "x (0 calls, 0 streams)").bytes =
        some ("x (0 calls, 0 streams)", { entangled with
          calls := [⟨"└─ ○ NIL", ⟨.error (Utf8.encode "─\uFFFD"), [⟨.uint64 7, []⟩, .nil]⟩⟩,
            ⟨"", .nil⟩] }) := by
  have single : '\n' ∉ "x (0 calls, 0 streams)".toList := by decide
  have flat : entangled.OneLine := by decide
  obtain ⟨size, found, -⟩ := outline_determines entangled "x (0 calls, 0 streams)" single flat
  exact ⟨single, flat, size, found.trans rfl⟩

end AstView.TreeView
