import AstView.Document
import AstView.Emitter
import AstView.Icon
import AstView.NodeId

/-!
# The tree view

A document is drawn as an indented tree for a terminal, one line for the document, each of its
two sections, each entry and each value:

    ⧉ balance (1 calls, 1 streams)
    ├─ ƒ calls
    │ └─ ▭ add
    │   └─ ○ ADD
    │     ├─ @ ARG(0)
    │     └─ ◦ UINT64(7)
    └─ ≋ streams
      └─ ⇶ cells
        └─ ○ NIL

Below the first line every line begins with two-column cells: one for each ancestor, which is a
bar if that ancestor has a later sibling and blank if not, and a connector, which bends on the
last child. Lines of entries and values can show the identifier that the graph of the same
document gives the node. `emit` writes the lines on its way through the document.
-/
namespace AstView.TreeView

/-- A line below the first. -/
structure Line where
  /-- For every ancestor below the document, from the top, whether a later sibling follows it. -/
  guides : List Bool
  /-- Whether no sibling follows the node itself. -/
  last : Bool
  /-- What the node stands for. -/
  icon : Icon
  /-- The label of the node. -/
  label : String
  /-- The identifier of the node; sections have none. -/
  id : Option NodeId
  deriving Repr, DecidableEq

/-- The guides of the children of a node. -/
def below (guides : List Bool) (last : Bool) : List Bool := guides ++ [!last]

mutual

/-- The lines of a tree whose root has an identifier. -/
def treeLines (id : NodeId) (guides : List Bool) (last : Bool) : Tree → List Line
  | ⟨kind, children⟩ =>
    ⟨guides, last, kind.icon, kind.label, some id⟩
      :: forestLines id (below guides last) 0 children

/-- The lines of the children of a node, the first of which has an index. -/
def forestLines (id : NodeId) (guides : List Bool) (index : Nat) : List Tree → List Line
  | [] => []
  | child :: rest =>
    treeLines (id.child index) guides rest.isEmpty child ++ forestLines id guides (index + 1) rest

end

/-- The lines of an entry and of its tree. -/
def entryLines (role : Role) (index : Nat) (guides : List Bool) (last : Bool) (entry : Entry) :
    List Line :=
  let id := NodeId.entry role index
  ⟨guides, last, .entry role, entry.name, some id⟩
    :: treeLines (id.child 0) (below guides last) true entry.tree

/-- The lines of the entries of a role, the first of which has an index. -/
def entriesLines (role : Role) (guides : List Bool) (index : Nat) : List Entry → List Line
  | [] => []
  | entry :: rest =>
    entryLines role index guides rest.isEmpty entry ++ entriesLines role guides (index + 1) rest

/-- The lines of a section and of its entries. -/
def sectionLines (role : Role) (last : Bool) (entries : List Entry) : List Line :=
  ⟨[], last, .heading role, role.anchor, none⟩ :: entriesLines role (below [] last) 0 entries

/-- The lines below the first. -/
def lines (document : Document) : List Line :=
  sectionLines .call false document.calls ++ sectionLines .stream true document.streams

/-- The cell of an ancestor. -/
def guideText (more : Bool) : String := if more then "│ " else "  "

/-- The cell before the icon. -/
def connectorText (last : Bool) : String := if last then "└─" else "├─"

/-- An identifier stands in brackets after the label. -/
def idText : Option NodeId → String
  | some id => " [" ++ id.text ++ "]"
  | none => ""

/-- The text of a line up to the end of its label. -/
def Line.front (line : Line) : String :=
  String.join (line.guides.map guideText) ++ connectorText line.last ++ " " ++ line.icon.symbol
    ++ " " ++ line.label

/-- The text of a line without the newline that ends it. -/
def Line.text (showIds : Bool) (line : Line) : String :=
  line.front ++ if showIds then idText line.id else ""

/-- The pieces of a line: the text up to the label, the identifier and the newline. -/
def Line.pieces (showIds : Bool) (line : Line) : List String :=
  match showIds, line.id with
  | true, some id => [line.front, idText (some id), "\n"]
  | _, _ => [line.front, "\n"]

/-- The text of the first line: the name of the document and how many entries it has. -/
def header (document : Document) (name : String) : String :=
  Icon.document.symbol ++ " " ++ name ++ " (" ++ toString document.calls.length ++ " calls, "
    ++ toString document.streams.length ++ " streams)"

/-- The pieces of a tree view: the first line with its newline, and those of the other lines. -/
def render (showIds : Bool) (document : Document) (name : String) : Rendering :=
  ((header document name ++ "\n") :: (lines document).flatMap (Line.pieces showIds)).map Utf8.encode

/-- Writes a line, with its identifier if that is asked for and there is one. -/
def Line.emit (showIds : Bool) (line : Line) : Emitter Error Unit := do
  Emitter.text line.front
  match showIds, line.id with
  | true, some id => Emitter.text (idText (some id))
  | _, _ => pure ()
  Emitter.text "\n"

mutual

/-- Writes a tree whose root has an identifier. -/
def emitTree (showIds : Bool) (id : NodeId) (guides : List Bool) (last : Bool) :
    Tree → Emitter Error Unit
  | ⟨kind, children⟩ => do
    (⟨guides, last, kind.icon, kind.label, some id⟩ : Line).emit showIds
    emitForest showIds id (below guides last) 0 children

/-- Writes the children of a node, the first of which has an index. -/
def emitForest (showIds : Bool) (id : NodeId) (guides : List Bool) (index : Nat) :
    List Tree → Emitter Error Unit
  | [] => return
  | child :: rest => do
    emitTree showIds (id.child index) guides rest.isEmpty child
    emitForest showIds id guides (index + 1) rest

end

/-- Writes the entries of a role, the first of which has an index. -/
def emitEntries (showIds : Bool) (role : Role) (guides : List Bool) (index : Nat) :
    List Entry → Emitter Error Unit
  | [] => return
  | entry :: rest => do
    let id := NodeId.entry role index
    (⟨guides, rest.isEmpty, .entry role, entry.name, some id⟩ : Line).emit showIds
    emitTree showIds (id.child 0) (below guides rest.isEmpty) true entry.tree
    emitEntries showIds role guides (index + 1) rest

/-- Writes a section and its entries. -/
def emitSection (showIds : Bool) (role : Role) (last : Bool) (entries : List Entry) :
    Emitter Error Unit := do
  (⟨[], last, .heading role, role.anchor, none⟩ : Line).emit showIds
  emitEntries showIds role (below [] last) 0 entries

/-- Writes the tree view of a document with a name. -/
def emit (showIds : Bool) (document : Document) (name : String) : Emitter Error Unit := do
  Emitter.text (header document name ++ "\n")
  emitSection showIds .call false document.calls
  emitSection showIds .stream true document.streams

end AstView.TreeView
