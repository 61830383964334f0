import AstView.Proofs.Document
import AstView.Proofs.NodeId
import AstView.Proofs.Utf8
import AstView.TreeView

/-!
# The lines of a tree view

If no label has a newline, every line of a tree view stays one line of its text. A line of an
entry or a value that shows its identifier is cut before it at the last space: identifiers have no
spaces, whatever brackets are in the label. What is left is the line without identifiers, and the
label stands in it behind the first bar of a connector, which no guide has, and an icon.
-/
namespace AstView.TreeView

open Text (words)

/-- The text of a tree view is its lines, with a newline behind each. -/
def treeText (showIds : Bool) (document : Document) (name : String) : String :=
  String.join ((header document name :: (lines document).map (Line.text showIds)).map
    (· ++ "\n"))

/-- The pieces of a line make up its text and a newline. -/
theorem join_pieces (showIds : Bool) (line : Line) :
    String.join (line.pieces showIds) = line.text showIds ++ "\n" := by
  obtain ⟨guides, last, icon, label, id⟩ := line
  cases showIds <;> cases id <;>
    simp [Line.pieces, Line.text, Line.front, idText, ← String.toList_inj]

/-- The bytes of a tree view are those of its text. -/
theorem bytes_render (showIds : Bool) (document : Document) (name : String) :
    (render showIds document name).bytes = Utf8.encode (treeText showIds document name) := by
  rw [render, Rendering.bytes, ← Utf8.encode_join, String.join_cons,
    Text.join_flatMap (join_pieces showIds), treeText, List.map_cons, String.join_cons]

/-! ## Reading lines -/

/-- Cuts a line in two at its last space if an identifier in brackets stands behind that. -/
def cutId (line : String) : Option (String × String) := do
  let word ← (words line).getLast?
  let inside ← word.toList.dropPrefix? ['[']
  let id ← inside.dropSuffix? [']']
  let front ← line.toList.dropSuffix? (' ' :: word.toList)
  if (NodeId.read (String.ofList id)).isSome then
    some (String.ofList front, String.ofList id)
  else none

/-- The label of a line without an identifier: what stands behind the bar of the connector and,
between two spaces, the icon. -/
def labelOf (line : String) : String :=
  String.ofList ((line.toList.dropWhile (· != '─')).drop 4)

/-- The identifier that a line shows, with the label of the line. -/
def pair? (line : String) : Option (String × String) :=
  (cutId line).map fun (front, id) => (id, labelOf front)

/-- A line without the identifier that it shows. -/
def withoutId (line : String) : String :=
  match cutId line with
  | some (front, _) => front
  | none => line

/-- A text without the identifiers that its lines show. -/
def withoutIds (text : String) : String :=
  String.join (((Text.lines text).map withoutId).map (· ++ "\n"))

/-- A line that ends with an identifier in brackets is cut before it. -/
theorem cutId_id (front : String) (id : NodeId) :
    cutId (front ++ " [" ++ id.text ++ "]") = some (front, id.text) := by
  have plain : ' ' ∉ ("[" ++ id.text ++ "]").toList := by
    have inner : ' ' ∉ id.text.toList := id.not_mem_text (by decide)
    simp [inner]
  have whole : front ++ " [" ++ id.text ++ "]" = front ++ " " ++ ("[" ++ id.text ++ "]") := by
    simp [← String.toList_inj]
  have last := Text.getLast?_words plain front
  have opened : ("[" ++ id.text ++ "]").toList.dropPrefix? ['['] =
      some (id.text.toList ++ [']']) := by
    rw [String.toList_append, String.toList_append]
    exact List.dropPrefix?_append_of_beq _ (beq_self_eq_true ['['])
  have closed : (id.text.toList ++ [']']).dropSuffix? [']'] = some id.text.toList :=
    List.dropSuffix?_eq_some_iff.2 ⟨[']'], rfl, rfl⟩
  have front : (front ++ " " ++ ("[" ++ id.text ++ "]")).toList.dropSuffix?
      (' ' :: ("[" ++ id.text ++ "]").toList) = some front.toList := by
    apply List.dropSuffix?_eq_some_iff.2
    refine ⟨_, ?_, beq_self_eq_true _⟩
    simp only [String.toList_append, List.append_assoc]
    rfl
  simp only [whole, cutId, last, opened, closed, front, NodeId.read_text, String.ofList_toList,
    Option.bind_eq_bind, Option.bind_some, Option.isSome_some, if_true]

/-- A line whose last word does not begin with a bracket shows no identifier. -/
theorem cutId_word {word : String} (whole : ' ' ∉ word.toList)
    (plain : word.toList.dropPrefix? ['['] = none) (front : String) :
    cutId (front ++ " " ++ word) = none := by
  simp only [cutId, Text.getLast?_words whole, plain, Option.bind_eq_bind, Option.bind_some,
    Option.bind_none]

/-! ## The lines of a document -/

/-- The lines below the first: those of sections, which show no identifier, and those of entries
and values, which do. -/
inductive Line.Inner : Line → Prop where
  | heading (guides : List Bool) (last : Bool) (role : Role) :
    Inner ⟨guides, last, .heading role, role.anchor, none⟩
  | node (guides : List Bool) (last : Bool) (icon : Icon) (label : String) (id : NodeId) :
    Inner ⟨guides, last, icon, label, some id⟩

/-- The lines of an entry are its own and those of the tree below it. -/
theorem entryLines_eq (role : Role) (index : Nat) (guides : List Bool) (last : Bool)
    (entry : Entry) : entryLines role index guides last entry =
      ⟨guides, last, .entry role, entry.name, some (.entry role index)⟩
        :: forestLines (.entry role index) (below guides last) 0 [entry.tree] := by
  simp only [entryLines, forestLines, List.append_nil, List.isEmpty_nil]

theorem inner_of_mem_forest {forest : List Tree} {id : NodeId} {guides : List Bool} {index : Nat}
    {line : Line} (inside : line ∈ forestLines id guides index forest) : line.Inner := by
  induction forest using Tree.forest_induction generalizing id guides index with
  | nil => cases inside
  | cons kind children rest below behind =>
    rw [forestLines, treeLines, List.cons_append, List.mem_cons, List.mem_append] at inside
    obtain rfl | child | other := inside
    · exact .node _ _ _ _ _
    · exact below child
    · exact behind other

theorem inner_of_mem_entries {role : Role} {guides : List Bool} {index : Nat}
    {entries : List Entry} {line : Line} (inside : line ∈ entriesLines role guides index entries) :
    line.Inner := by
  induction entries generalizing index with
  | nil => cases inside
  | cons entry rest ih =>
    rw [entriesLines, entryLines_eq, List.cons_append, List.mem_cons, List.mem_append] at inside
    obtain rfl | tree | other := inside
    · exact .node _ _ _ _ _
    · exact inner_of_mem_forest tree
    · exact ih other

theorem inner_of_mem_lines {document : Document} {line : Line} (inside : line ∈ lines document) :
    line.Inner := by
  rw [lines, sectionLines, sectionLines, List.cons_append, List.mem_cons, List.mem_append,
    List.mem_cons] at inside
  obtain rfl | call | rfl | stream := inside
  · exact .heading _ _ _
  · exact inner_of_mem_entries call
  · exact .heading _ _ _
  · exact inner_of_mem_entries stream

/-- The identifier of a line, with its label. -/
def Line.pair? (line : Line) : Option (NodeId × String) := line.id.map fun id => (id, line.label)

/-- The lines of a forest show its values. -/
theorem pairs_forestLines (id : NodeId) (guides : List Bool) (index : Nat) (forest : List Tree) :
    (forestLines id guides index forest).filterMap Line.pair? =
      Tree.forestPairs id index forest := by
  induction forest using Tree.forest_induction generalizing id guides index with
  | nil => rfl
  | cons kind children rest below behind =>
    have first : Line.pair? ⟨guides, rest.isEmpty, kind.icon, kind.label, some (id.child index)⟩ =
        some (id.child index, kind.label) := rfl
    rw [forestLines, treeLines, Tree.forestPairs, Tree.pairs, List.filterMap_append,
      List.filterMap_cons_some first, below, behind]

theorem pairs_entriesLines (role : Role) (guides : List Bool) (index : Nat)
    (entries : List Entry) : (entriesLines role guides index entries).filterMap Line.pair? =
      Document.entriesPairs role index entries := by
  induction entries generalizing index with
  | nil => rfl
  | cons entry rest ih =>
    have first : Line.pair? ⟨guides, rest.isEmpty, .entry role, entry.name,
        some (.entry role index)⟩ = some (.entry role index, entry.name) := rfl
    rw [entriesLines, entryLines_eq, Document.entriesPairs, Entry.pairs_eq, List.filterMap_append,
      List.filterMap_cons_some first, pairs_forestLines, ih]

/-- The lines of a document show its entries and values. -/
theorem pairs_lines (document : Document) :
    (lines document).filterMap Line.pair? = document.pairs := by
  rw [lines, sectionLines, sectionLines, List.filterMap_append, List.filterMap_cons_none rfl,
    List.filterMap_cons_none rfl, pairs_entriesLines, pairs_entriesLines, Document.pairs]

/-- The labels of lines have no newline if no name and no text of an error has. -/
theorem newline_not_mem_label {document : Document} (flat : document.OneLine) {line : Line}
    (inside : line ∈ lines document) : '\n' ∉ line.label.toList := by
  cases inner_of_mem_lines inside with
  | heading guides last role =>
    change '\n' ∉ role.anchor.toList
    cases role <;> decide
  | node guides last icon label id =>
    apply Document.newline_not_mem_pairs flat (id, label)
    rw [← pairs_lines]
    exact List.mem_filterMap.2 ⟨_, inside, rfl⟩

/-- The guides before an icon have bars and spaces only. -/
theorem not_mem_guides {char : Char} (other : char ≠ '│' ∧ char ≠ ' ') (guides : List Bool) :
    char ∉ (String.join (guides.map guideText)).toList := by
  induction guides with
  | nil => exact List.not_mem_nil
  | cons more rest ih =>
    have first : char ∉ (guideText more).toList := by
      cases more <;> simp [guideText, other]
    rw [List.map_cons, String.join_cons, String.toList_append, List.mem_append, not_or]
    exact ⟨first, ih⟩

/-- Every guide has two characters. -/
theorem length_guides (guides : List Bool) :
    (String.join (guides.map guideText)).toList.length = 2 * guides.length := by
  induction guides with
  | nil => rfl
  | cons more rest ih =>
    have first : (guideText more).toList.length = 2 := by cases more <;> rfl
    rw [List.map_cons, String.join_cons, String.toList_append, List.length_append, ih, first,
      List.length_cons]
    omega

/-- An icon is one character. -/
theorem symbol_eq (icon : Icon) : ∃ char, icon.symbol.toList = [char] := by
  rcases icon with _ | (_ | _) | (_ | _) | _ | _ | _ | _ <;> exact ⟨_, rfl⟩

/-- In front of the bar of its connector a line has two characters for every guide and the corner of
the connector; behind it come the icon and the label. -/
theorem toList_text (line : Line) : ∃ front symbol,
    (line.text false).toList = front ++ '─' :: ' ' :: symbol :: ' ' :: line.label.toList ∧
      '─' ∉ front ∧ front.length = 2 * line.guides.length + 1 := by
  obtain ⟨guides, last, icon, label, id⟩ := line
  obtain ⟨symbol, single⟩ := symbol_eq icon
  obtain ⟨corner, connector, other⟩ : ∃ corner, (connectorText last).toList = [corner, '─'] ∧
      '─' ≠ corner := by
    cases last
    · exact ⟨'├', rfl, by decide⟩
    · exact ⟨'└', rfl, by decide⟩
  refine ⟨(String.join (guides.map guideText)).toList ++ [corner], symbol, ?_, ?_, ?_⟩
  · simp [Line.text, Line.front, connector, single]
  · rw [List.mem_append, List.mem_singleton, not_or]
    exact ⟨not_mem_guides (by decide) guides, other⟩
  · rw [List.length_append, List.length_singleton, length_guides]

/-- The label of a line is found behind the connector and the icon. -/
theorem labelOf_text (line : Line) : labelOf (line.text false) = line.label := by
  obtain ⟨front, symbol, chars, plain, -⟩ := toList_text line
  have before : ∀ char ∈ front, (char != '─') = true :=
    fun char inside => bne_iff_ne.2 fun same => plain (same ▸ inside)
  rw [labelOf, chars, List.dropWhile_append_of_pos before]
  exact String.ofList_toList

/-! ## The text of a document -/

/-- A line stays on its line if its label does. -/
theorem newline_not_mem_text (showIds : Bool) {line : Line} (flat : '\n' ∉ line.label.toList) :
    '\n' ∉ (line.text showIds).toList := by
  have guides : '\n' ∉ (String.join (line.guides.map guideText)).toList :=
    not_mem_guides (by decide) line.guides
  have connector : '\n' ∉ (connectorText line.last).toList := by cases line.last <;> decide
  have icon : '\n' ∉ line.icon.symbol.toList := by
    rcases line.icon with _ | (_ | _) | (_ | _) | _ | _ | _ | _ <;> decide
  have shown : '\n' ∉ (if showIds then idText line.id else "").toList := by
    cases showIds with
    | false => exact List.not_mem_nil
    | true =>
      cases line.id with
      | none => decide
      | some id =>
        have plain : '\n' ∉ id.text.toList := id.not_mem_text (by decide)
        simp [idText, plain]
  simp only [Line.text, Line.front, String.toList_append, List.mem_append, not_or]
  exact ⟨⟨⟨⟨⟨⟨guides, connector⟩, by decide⟩, icon⟩, by decide⟩, flat⟩, shown⟩

/-- The first line stays on its line if the name does. -/
theorem newline_not_mem_header (document : Document) {name : String}
    (oneLine : '\n' ∉ name.toList) : '\n' ∉ (header document name).toList := by
  have digits (number : Nat) : '\n' ∉ (toString number).toList :=
    NodeId.not_mem_decimal rfl number
  simp only [header, String.toList_append, List.mem_append, not_or]
  exact ⟨⟨⟨⟨⟨⟨⟨by decide, by decide⟩, oneLine⟩, by decide⟩, digits _⟩, by decide⟩, digits _⟩,
    by decide⟩

/-- A line that shows its identifier is the line without it and the identifier in brackets. -/
theorem cutId_text {line : Line} (inner : line.Inner) :
    cutId (line.text true) = line.id.map fun id => (line.text false, id.text) := by
  cases inner with
  | heading guides last role =>
    have whole : ' ' ∉ role.anchor.toList := by cases role <;> decide
    have plain : role.anchor.toList.dropPrefix? ['['] = none := by cases role <;> rfl
    have text : Line.text true ⟨guides, last, .heading role, role.anchor, none⟩ =
        String.join (guides.map guideText) ++ connectorText last ++ " " ++
          (Icon.heading role).symbol ++ " " ++ role.anchor := by
      simp only [Line.text, Line.front, idText, if_true, String.append_empty]
    rw [text, cutId_word whole plain, Option.map_none]
  | node guides last icon label id =>
    have cut := cutId_id (Line.text false ⟨guides, last, icon, label, some id⟩) id
    rw [Option.map_some, ← cut]
    simp only [Line.text, idText, if_true, if_false, Bool.false_eq_true, String.append_empty,
      String.append_assoc]

/-- A line without the identifier that it shows is the line as it is without identifiers. -/
theorem withoutId_text {line : Line} (inner : line.Inner) :
    withoutId (line.text true) = line.text false := by
  rw [withoutId, cutId_text inner]
  cases inner with
  | heading guides last role =>
    simp only [Option.map_none, Line.text, idText, if_true, Bool.false_eq_true, if_false]
  | node guides last icon label id => simp only [Option.map_some]

/-- The first line shows no identifier. -/
theorem cutId_header (document : Document) (name : String) :
    cutId (header document name) = none := by
  have whole : ' ' ∉ "streams)".toList := by decide
  have plain : "streams)".toList.dropPrefix? ['['] = none := rfl
  have text : header document name =
      Icon.document.symbol ++ " " ++ name ++ " (" ++ toString document.calls.length ++ " calls, "
        ++ toString document.streams.length ++ " " ++ "streams)" := by
    simp [header, ← String.toList_inj]
  rw [text, cutId_word whole plain]

section
variable {document : Document} {name : String} (oneLine : '\n' ∉ name.toList)
  (flat : document.OneLine)
include oneLine flat

/-- The lines of a tree view are the first line and those of sections, entries and values. -/
theorem lines_treeText (showIds : Bool) : Text.lines (treeText showIds document name) =
    header document name :: (lines document).map (Line.text showIds) := by
  apply Text.lines_join_of_flat
  intro text inside
  obtain rfl | below := List.mem_cons.1 inside
  · exact newline_not_mem_header document oneLine
  · obtain ⟨line, member, rfl⟩ := List.mem_map.1 below
    exact newline_not_mem_text showIds (newline_not_mem_label flat member)

/-- The lines of a tree view show the identifiers and labels of entries and values in order. -/
theorem pairs_treeText : (Text.lines (treeText true document name)).filterMap pair? =
    document.pairs.map fun (id, label) => (id.text, label) := by
  have first : pair? (header document name) = none := by
    rw [pair?, cutId_header]
    rfl
  rw [lines_treeText oneLine flat, List.filterMap_cons_none first, List.filterMap_map,
    ← pairs_lines, List.map_filterMap]
  apply List.filterMap_congr
  intro line inside
  rw [Function.comp_apply, pair?, cutId_text (inner_of_mem_lines inside), Line.pair?]
  cases line.id with
  | none => rfl
  | some id => simp only [Option.map_some, labelOf_text]

/-- A tree view without the identifiers that it shows is the one that shows none. -/
theorem withoutIds_treeText :
    withoutIds (treeText true document name) = treeText false document name := by
  have first : withoutId (header document name) = header document name := by
    rw [withoutId, cutId_header]
  have below : (lines document).map (withoutId ∘ Line.text true) =
      (lines document).map (Line.text false) := by
    apply List.map_congr_left
    intro line inside
    exact withoutId_text (inner_of_mem_lines inside)
  rw [withoutIds, lines_treeText oneLine flat, List.map_cons, first, List.map_map, below,
    treeText]

end

end AstView.TreeView
