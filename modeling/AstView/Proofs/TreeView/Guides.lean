import AstView.Proofs.TreeView.Line
import Mathlib.Data.List.Chain

/-!
# Guide lines

The bars and connectors in a column of a tree view make lines that begin at a connector, go down
through the lines below it without a gap and end in a bend. That is a law about two lines in a row
(`Cells.Continues`), and these often come from different calls: the last line below a node stands in
front of a sibling of any of its ancestors.

What all levels have in common is an outline: nodes in one column, each with an outline one column
further in below it, and marked as the last one exactly if none stands behind it (`Outline`). In an
outline a line is followed by one of two kinds (`Cells.Precedes`): a child, whose guides are those
that the line has for what is below it, or a node whose own guides are a part of these, up to the
last column that is still open.
-/
namespace AstView.TreeView

/-! ## Cells -/

/-- What stands in a column of a line. -/
inductive Cell where
  /-- The guide line of an ancestor that has a later sibling. -/
  | bar
  /-- Two blanks, below a last sibling. -/
  | blank
  /-- The connector of a node that has a later sibling. -/
  | tee
  /-- The connector of a last sibling. -/
  | bend
  deriving Repr, DecidableEq

/-- The cells of a line. -/
structure Cells where
  /-- The cells in front of the connector, and whether each of them is a bar and not blank. -/
  guides : List Bool
  /-- Whether the connector is a bend. -/
  last : Bool
  deriving Repr, DecidableEq

namespace Cells

/-- How many cells stand in front of the connector. -/
def depth (cells : Cells) : Nat := cells.guides.length

/-- The cell in front of a connector. -/
def guide (more : Bool) : Cell := if more then .bar else .blank

/-- The cell of a connector. -/
def connector (last : Bool) : Cell := if last then .bend else .tee

/-- The cell in a column, if the line has one there. -/
def cell? (cells : Cells) (column : Nat) : Option Cell :=
  (cells.guides.map guide ++ [connector cells.last])[column]?

/-- The cells with one more in front. -/
def under (more : Bool) (cells : Cells) : Cells := { cells with guides := more :: cells.guides }

end Cells

/-- Reads the cells of a line, two characters each, up to the connector. -/
def readCells : List Char → Option Cells
  | '│' :: ' ' :: rest => (readCells rest).map (Cells.under true)
  | ' ' :: ' ' :: rest => (readCells rest).map (Cells.under false)
  | '├' :: '─' :: _ => some ⟨[], false⟩
  | '└' :: '─' :: _ => some ⟨[], true⟩
  | _ => none

/-- How a line is continued by the next one, if there is a next one. -/
structure Cells.Continues (cells : Cells) (next : Option Cells) : Prop where
  /-- Below a bar or a tee the guide line goes on: there is a next line, it reaches as far, and it
  has a bar or a connector in that column. -/
  goesOn : ∀ column, cells.cell? column = some .bar ∨ cells.cell? column = some .tee →
    ∃ following, next = some following ∧ column ≤ following.depth ∧
      (following.cell? column = some .bar ∨ following.cell? column = some .tee ∨
        following.cell? column = some .bend)
  /-- Below a blank or a bend there is no guide line: the next line ends before that column or goes
  on behind a blank. -/
  staysEnded : ∀ column, cells.cell? column = some .blank ∨ cells.cell? column = some .bend →
    ∀ following, next = some following → following.depth < column ∨
      column < following.depth ∧ following.cell? column = some .blank
  /-- The next line is one column further in at most. -/
  steps : ∀ following, next = some following → following.depth ≤ cells.depth + 1

/-- The cells of a line. -/
def Line.cells (line : Line) : Cells := ⟨line.guides, line.last⟩

/-- Guides and a connector are read back, whatever stands behind them. -/
theorem readCells_append (guides : List Bool) (last : Bool) (rest : List Char) :
    readCells ((String.join (guides.map guideText)).toList ++
      ((connectorText last).toList ++ rest)) = some ⟨guides, last⟩ := by
  induction guides with
  | nil => cases last <;> rfl
  | cons more guides ih =>
    have first (rest : List Char) : readCells ((guideText more).toList ++ rest) =
        (readCells rest).map (Cells.under more) := by
      cases more <;> rfl
    rw [List.map_cons, String.join_cons, String.toList_append, List.append_assoc, first, ih]
    rfl

/-- The cells of a line are read from its text. -/
theorem readCells_text (showIds : Bool) (line : Line) :
    readCells (line.text showIds).toList = some line.cells := by
  simp only [Line.text, Line.front, String.toList_append, List.append_assoc, readCells_append]
  rfl

/-! ## Open columns -/

namespace Cells

variable {cells : Cells} {column : Nat}

/-- In front of the connector stand guides. -/
theorem cell?_of_lt (inside : column < cells.depth) :
    cells.cell? column = (cells.guides[column]?).map guide := by
  rw [cell?, List.getElem?_append_left (by rwa [List.length_map]), List.getElem?_map]

/-- Behind the guides stands the connector. -/
theorem cell?_depth : cells.cell? cells.depth = some (connector cells.last) := by
  rw [cell?, depth, ← List.length_map guide, List.getElem?_concat_length]

/-- Behind the connector stand no cells. -/
theorem cell?_of_gt (beyond : cells.depth < column) : cells.cell? column = none := by
  apply List.getElem?_eq_none
  rw [List.length_append, List.length_map, List.length_singleton]
  exact beyond

/-- The columns of a line, and whether a guide line goes on in each of them below the line. -/
def openings (cells : Cells) : List Bool := below cells.guides cells.last

/-- In a column of an ancestor a guide line goes on as it comes in. -/
theorem openings_of_lt (inside : column < cells.depth) :
    cells.openings[column]? = cells.guides[column]? :=
  List.getElem?_append_left inside

/-- Below a connector a guide line goes on if a sibling follows. -/
theorem openings_depth : cells.openings[cells.depth]? = some (!cells.last) :=
  List.getElem?_concat_length

/-- No guide line begins behind the connector. -/
theorem openings_of_gt (beyond : cells.depth < column) : cells.openings[column]? = none := by
  apply List.getElem?_eq_none
  rw [openings, below, List.length_append, List.length_singleton]
  exact beyond

/-- A line has a column more than it has guides. -/
theorem length_openings (cells : Cells) : cells.openings.length = cells.depth + 1 :=
  List.length_append

/-- A guide line goes on below bars and tees. -/
theorem open_iff : cells.openings[column]? = some true ↔
    cells.cell? column = some .bar ∨ cells.cell? column = some .tee := by
  rcases Nat.lt_trichotomy column cells.depth with inside | rfl | beyond
  · rw [openings_of_lt inside, cell?_of_lt inside, List.getElem?_eq_getElem inside]
    cases cells.guides[column] <;> simp [guide]
  · rw [openings_depth, cell?_depth]
    cases cells.last <;> simp [connector]
  · rw [openings_of_gt beyond, cell?_of_gt beyond]
    simp only [reduceCtorEq, or_self]

/-- No guide line goes on below blanks and bends. -/
theorem ended_iff : cells.openings[column]? = some false ↔
    cells.cell? column = some .blank ∨ cells.cell? column = some .bend := by
  rcases Nat.lt_trichotomy column cells.depth with inside | rfl | beyond
  · rw [openings_of_lt inside, cell?_of_lt inside, List.getElem?_eq_getElem inside]
    cases cells.guides[column] <;> simp [guide]
  · rw [openings_depth, cell?_depth]
    cases cells.last <;> simp [connector]
  · rw [openings_of_gt beyond, cell?_of_gt beyond]
    simp only [reduceCtorEq, or_self]

/-! ## Two lines in a row -/

/-- A line stands in front of a child of its node, or of a node that has the last column in which a
guide line is still open. -/
def Precedes (cells next : Cells) : Prop :=
  next.guides = cells.openings ∨
    ∃ ended, cells.openings = next.guides ++ true :: List.replicate ended false

/-- All guide lines have ended below a line. -/
def Closes (cells : Cells) : Prop := ∃ ended, cells.openings = List.replicate ended false

/-- A guide stands in front of the connector. -/
theorem cell?_of_guide {more : Bool} (own : cells.guides[column]? = some more) :
    column < cells.depth ∧ cells.cell? column = some (guide more) := by
  have inside : column < cells.depth := (List.getElem?_eq_some_iff.1 own).1
  exact ⟨inside, by rw [cell?_of_lt inside, own, Option.map_some]⟩

/-- Guide lines go on in front of a child as they are open. -/
theorem Precedes.continues {next : Cells} (precedes : cells.Precedes next) :
    cells.Continues (some next) := by
  have width := cells.length_openings
  obtain child | ⟨ended, beside⟩ := precedes
  · have deeper : next.depth = cells.depth + 1 := by rw [depth, child, width]
    constructor
    · intro column goesOn
      rw [← open_iff, ← child] at goesOn
      obtain ⟨inside, bar⟩ := cell?_of_guide goesOn
      exact ⟨next, rfl, Nat.le_of_lt inside, .inl bar⟩
    · rintro column stays _ ⟨⟩
      rw [← ended_iff, ← child] at stays
      exact .inr (cell?_of_guide stays)
    · rintro _ ⟨⟩
      exact Nat.le_of_eq deeper
  · -- The openings are the guides of the next line, its own column and ended columns behind it.
    have own {column : Nat} (inside : column < next.depth) :
        cells.openings[column]? = next.guides[column]? := by
      rw [beside, List.getElem?_append_left inside]
    have connected : cells.openings[next.depth]? = some true := by
      rw [beside, depth, List.getElem?_append_right (Nat.le_refl _), Nat.sub_self]
      rfl
    have behind {column : Nat} (beyond : next.depth < column) :
        cells.openings[column]? ≠ some true := by
      obtain ⟨gap, rfl⟩ := Nat.exists_eq_add_of_lt beyond
      have place : next.depth + gap + 1 - next.guides.length = gap + 1 := by
        rw [depth]
        omega
      rw [beside, List.getElem?_append_right (Nat.le_of_lt beyond), place, List.getElem?_cons_succ,
        List.getElem?_replicate]
      split <;> simp only [ne_eq, Option.some.injEq, Bool.false_eq_true, reduceCtorEq,
        not_false_eq_true]
    constructor
    · intro column goesOn
      rw [← open_iff] at goesOn
      rcases Nat.lt_trichotomy column next.depth with inside | rfl | beyond
      · rw [own inside] at goesOn
        exact ⟨next, rfl, Nat.le_of_lt inside, .inl (cell?_of_guide goesOn).2⟩
      · refine ⟨next, rfl, Nat.le_refl _, .inr ?_⟩
        rw [cell?_depth]
        cases next.last
        · exact .inl rfl
        · exact .inr rfl
      · exact absurd goesOn (behind beyond)
    · rintro column stays _ ⟨⟩
      rw [← ended_iff] at stays
      rcases Nat.lt_trichotomy column next.depth with inside | rfl | beyond
      · rw [own inside] at stays
        exact .inr (cell?_of_guide stays)
      · rw [connected] at stays
        cases stays
      · exact .inl beyond
    · rintro _ ⟨⟩
      rw [beside, List.length_append, List.length_cons, List.length_replicate] at width
      rw [depth]
      omega

/-- A line below which all guide lines have ended can be the last one. -/
theorem Closes.continues (closes : cells.Closes) : cells.Continues none := by
  obtain ⟨ended, closed⟩ := closes
  constructor
  · intro column goesOn
    rw [← open_iff, closed, List.getElem?_replicate] at goesOn
    split at goesOn <;> cases goesOn
  · exact fun _ _ _ none => nomatch none
  · exact fun _ none => nomatch none

end Cells

/-! ## Outlines -/

/-- Lines of nodes in one column, given by its guides, and of what is below each of them. A node is
marked as the last one exactly if none stands behind it. -/
inductive Outline : List Bool → List Line → Prop where
  /-- There are no nodes. -/
  | nil {guides : List Bool} : Outline guides []
  /-- A node with what is below it, in front of the other nodes. -/
  | node {guides : List Bool} {line : Line} {inside behind : List Line}
      (column : line.guides = guides) (marked : line.last = behind.isEmpty)
      (children : Outline (below guides line.last) inside) (others : Outline guides behind) :
      Outline guides (line :: (inside ++ behind))

/-- How guide lines run through the lines of an outline. -/
structure Drawn (guides : List Bool) (lines : List Line) : Prop where
  /-- The first line stands in the column of the outline. -/
  starts : ∀ first ∈ lines.head?, first.guides = guides
  /-- Guide lines go on from line to line. -/
  runs : lines.IsChain fun line next => line.cells.Precedes next.cells
  /-- Below the last line those of the outline itself have ended. -/
  closes : ∀ last ∈ lines.getLast?, ∃ ended,
    last.cells.openings = guides ++ List.replicate ended false

/-- Guide lines run through every outline. -/
theorem Outline.drawn {guides : List Bool} {lines : List Line} (outline : Outline guides lines) :
    Drawn guides lines := by
  induction outline with
  | nil => exact ⟨nofun, .nil, nofun⟩
  | @node guides line inside behind column marked _ _ children others =>
    subst column
    -- Below a node the openings of the last line are those of the node, whatever is in between.
    have blockRuns : (line :: inside).IsChain fun line next => line.cells.Precedes next.cells := by
      refine List.isChain_cons.2 ⟨fun first inside => .inl ?_, children.runs⟩
      exact children.starts first inside
    have blockCloses : ∀ last ∈ (line :: inside).getLast?, ∃ ended,
        last.cells.openings =
          TreeView.below line.guides line.last ++ List.replicate ended false := by
      intro last found
      cases inside with
      | nil =>
        cases found
        exact ⟨0, (List.append_nil _).symm⟩
      | cons first rest => exact children.closes last found
    refine ⟨?_, ?_, ?_⟩
    · rintro _ ⟨⟩
      rfl
    · rw [← List.cons_append, List.isChain_append]
      refine ⟨blockRuns, others.runs, fun last found next follows => .inr ?_⟩
      obtain ⟨ended, opened⟩ := blockCloses last found
      have more : line.last = false := by
        cases behind with
        | nil => cases follows
        | cons => exact marked
      refine ⟨ended, ?_⟩
      rw [opened, TreeView.below, more, List.append_assoc, show next.cells.guides = line.guides from
        others.starts next follows]
      rfl
    · intro last found
      cases behind with
      | cons next rest =>
        rw [← List.cons_append, List.getLast?_append_cons] at found
        exact others.closes last found
      | nil =>
        rw [List.append_nil] at found
        obtain ⟨ended, opened⟩ := blockCloses last found
        refine ⟨ended + 1, ?_⟩
        rw [opened, TreeView.below, marked, List.append_assoc]
        rfl

theorem outline_forestLines (id : NodeId) (guides : List Bool) (index : Nat) (forest : List Tree) :
    Outline guides (forestLines id guides index forest) := by
  induction forest using Tree.forest_induction generalizing id guides index with
  | nil => exact .nil
  | cons kind children rest children_ih rest_ih =>
    have marked : rest.isEmpty = (forestLines id guides (index + 1) rest).isEmpty := by
      rcases rest with _ | ⟨⟨kind, children⟩, rest⟩ <;> rfl
    rw [forestLines, treeLines, List.cons_append]
    exact .node rfl marked (children_ih _ _ _) (rest_ih _ _ _)

theorem outline_entriesLines (role : Role) (guides : List Bool) (index : Nat)
    (entries : List Entry) : Outline guides (entriesLines role guides index entries) := by
  induction entries generalizing index with
  | nil => exact .nil
  | cons entry rest ih =>
    have marked : rest.isEmpty = (entriesLines role guides (index + 1) rest).isEmpty := by
      cases rest <;> rfl
    rw [entriesLines, entryLines_eq, List.cons_append]
    exact .node rfl marked (outline_forestLines _ _ _ _) (ih _)

/-- The sections of a document are the nodes of an outline. -/
theorem outline_lines (document : Document) : Outline [] (lines document) := by
  have streams : Outline [] (sectionLines .stream true document.streams ++ []) :=
    .node rfl rfl (outline_entriesLines .stream (below [] true) 0 document.streams) .nil
  rw [List.append_nil] at streams
  exact .node rfl rfl (outline_entriesLines .call (below [] false) 0 document.calls) streams

/-! ## Tree views -/

/-- Every line of a document is continued by the one behind it, and the last one by none. -/
theorem continues_lines (document : Document) (index : Nat) {cells : Cells}
    (found : ((lines document).map Line.cells)[index]? = some cells) :
    cells.Continues ((lines document).map Line.cells)[index + 1]? := by
  obtain ⟨-, runs, closes⟩ := (outline_lines document).drawn
  rw [List.getElem?_map, Option.map_eq_some_iff] at found
  obtain ⟨line, found, rfl⟩ := found
  obtain ⟨inside, rfl⟩ := List.getElem?_eq_some_iff.1 found
  by_cases more : index + 1 < (lines document).length
  · rw [List.getElem?_map, List.getElem?_eq_getElem more]
    exact (List.isChain_iff_getElem.1 runs index more).continues
  · have last : (lines document).getLast? = some (lines document)[index] := by
      rw [List.getLast?_eq_getElem?, show (lines document).length - 1 = index by omega, found]
    obtain ⟨ended, closed⟩ := closes _ last
    rw [List.getElem?_eq_none (by rw [List.length_map]; omega)]
    exact Cells.Closes.continues ⟨ended, closed⟩

/-- The guide lines of a tree view have no gaps and end. If neither the name nor a label has a
newline, every line but the first begins with cells, whether identifiers are shown or not. A bar or
a tee goes on in the next line, which reaches as far, as a bar or a connector in the same column;
what is below a blank or a bend ends before that column or has a blank in it; no line is more than
one column further in than the one before; and the last line has no bar and no tee. -/
theorem guides_connected (showIds : Bool) (document : Document) (name : String)
    (oneLine : '\n' ∉ name.toList) (flat : document.OneLine) :
    ∃ (text first : String) (rest : List String) (rows : List Cells),
      Utf8.decode (render showIds document name).bytes = .ok text ∧
      Text.lines text = first :: rest ∧
      rest.map (fun line => readCells line.toList) = rows.map some ∧
      (∀ index (cells : Cells), rows[index]? = some cells → cells.Continues rows[index + 1]?) ∧
      ∀ last ∈ rows.getLast?, ∀ column,
        last.cell? column ≠ some .bar ∧ last.cell? column ≠ some .tee := by
  refine ⟨treeText showIds document name, header document name,
    (lines document).map (Line.text showIds), (lines document).map Line.cells, ?_,
    lines_treeText oneLine flat showIds, ?_, fun index _ => continues_lines document index, ?_⟩
  · rw [bytes_render, Utf8.decode_encode]
  · rw [List.map_map, List.map_map]
    exact List.map_congr_left fun line _ => readCells_text showIds line
  · intro last found column
    rw [List.getLast?_eq_getElem?] at found
    have length := (List.getElem?_eq_some_iff.1 found).1
    have none := continues_lines document _ found
    rw [List.getElem?_eq_none (by omega)] at none
    have ends (goesOn : last.cell? column = some .bar ∨ last.cell? column = some .tee) : False := by
      obtain ⟨following, missing, -⟩ := none.goesOn column goesOn
      cases missing
    exact ⟨fun bar => ends (.inl bar), fun tee => ends (.inr tee)⟩

/-- A document in which the deepest value of a call stands in front of another call, with labels
that look like cells. -/
def branching : Document where
  calls := [⟨"│ ├─", ⟨.nil, [⟨.bool true, [.nil]⟩, ⟨.arg 0, [⟨.nil, [.nil]⟩]⟩]⟩⟩, ⟨"└─", .nil⟩]
  streams := [⟨"  ", ⟨.error [0xE2, 0x94, 0x82, 0xFF], [.nil]⟩⟩]

theorem guides_connected_branching :
    '\n' ∉ "├─ a".toList ∧ branching.OneLine ∧
      ∃ (text first : String) (rest : List String) (rows : List Cells),
        Utf8.decode (render true branching "├─ a").bytes = .ok text ∧
        Text.lines text = first :: rest ∧
        rest.map (fun line => readCells line.toList) = rows.map some ∧
        ∀ index (cells : Cells), rows[index]? = some cells → cells.Continues rows[index + 1]? := by
  have single : '\n' ∉ "├─ a".toList := by decide
  have flat : branching.OneLine := by decide
  obtain ⟨text, first, rest, rows, decoded, cut, read, connected, -⟩ :=
    guides_connected true branching "├─ a" single flat
  exact ⟨single, flat, text, first, rest, rows, decoded, cut, read, connected⟩

end AstView.TreeView
