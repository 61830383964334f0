import AstView.Document
import AstView.Dot.Label
import AstView.Emitter
import AstView.NodeId

/-!
# Graphs in the DOT language

The graph of a document has a root, under it a node for all streams and one for all calls,
under those the entries, and under each entry its tree of values. It is a list of statements
of one line each, which `emit` writes on its way through the document. A call stands in a cluster
of its own with its tree; a stream does not.

    digraph G {
    newrank="true"
    t -> { streams  calls }

    calls -> c0
    subgraph cluster_c0 {
    c0 [label ="add", shape="box"]
    c0 -> c0v0
    c0v0 [label="UINT64(7)"]
    }
    }

Labels stand as they are unless escaping is asked for; the name of the root always stands as
it is.
-/
namespace AstView.Dot

/-- A statement of a graph. -/
inductive Statement where
  /-- The graph begins. -/
  | openGraph
  /-- Clusters do not keep their nodes from lining up with others. -/
  | newRank
  /-- The root leads to the streams and to the calls. -/
  | root (name : String)
  /-- The node of a role leads to an entry. -/
  | anchor (role : Role) (id : NodeId)
  /-- The cluster of an entry begins. -/
  | openCluster (id : NodeId)
  /-- A node has a label. -/
  | node (id : NodeId) (label : String)
  /-- A node leads to another one. -/
  | edge (source target : NodeId)
  /-- The innermost cluster or the graph ends. -/
  | close
  deriving Repr, DecidableEq

mutual

/-- The statements of a tree whose root has an identifier: the node itself, and an edge to each
child followed by the statements of the child. -/
def treeStatements (id : NodeId) : Tree → List Statement
  | ⟨kind, children⟩ => .node id kind.label :: forestStatements id 0 children

/-- The statements of the children of a node, the first of which has an index. -/
def forestStatements (id : NodeId) (index : Nat) : List Tree → List Statement
  | [] => []
  | child :: rest =>
    .edge id (id.child index)
      :: (treeStatements (id.child index) child ++ forestStatements id (index + 1) rest)

end

/-- The statements of the node of an entry and of its tree. -/
def entryBody (id : NodeId) (entry : Entry) : List Statement :=
  .node id entry.name :: .edge id (id.child 0) :: treeStatements (id.child 0) entry.tree

/-- The statements of the entry of a role at an index. -/
def entryStatements (role : Role) (index : Nat) (entry : Entry) : List Statement :=
  let id := NodeId.entry role index
  match role with
  | .call => .anchor role id :: .openCluster id :: (entryBody id entry ++ [.close])
  | .stream => .anchor role id :: entryBody id entry

/-- The statements of the entries of a role, the first of which has an index. -/
def entriesStatements (role : Role) (index : Nat) : List Entry → List Statement
  | [] => []
  | entry :: rest => entryStatements role index entry ++ entriesStatements role (index + 1) rest

/-- The statements of the graph of a document with a name for its root. -/
def statements (document : Document) (name : String) : List Statement :=
  .openGraph :: .newRank :: .root name
    :: (entriesStatements .call 0 document.calls ++ entriesStatements .stream 0 document.streams
      ++ [.close])

/-- What stands between the brackets of a node. Entries are boxes, and calls have a space before
the equals sign. -/
def attributes (id : NodeId) (label : String) : String :=
  match id with
  | .entry .call _ => "label =\"" ++ label ++ "\", shape=\"box\""
  | .entry .stream _ => "label=\"" ++ label ++ "\", shape=\"box\""
  | .value _ _ _ => "label=\"" ++ label ++ "\""

/-- The text of a statement without the newline that ends it. -/
def Statement.text (escape : Bool) : Statement → String
  | openGraph => "digraph G \x7b"
  | newRank => "newrank=\"true\""
  | root name => name ++ " -> \x7b streams  calls \x7d\n"
  | anchor role id => role.anchor ++ " -> " ++ id.text
  | openCluster id => "subgraph cluster_" ++ id.text ++ " \x7b"
  | node id label =>
    id.text ++ " [" ++ attributes id (if escape then escapeLabel label else label) ++ "]"
  | edge source target => source.text ++ " -> " ++ target.text
  | close => "\x7d"

/-- The pieces of a statement: its text and a newline. -/
def Statement.pieces (escape : Bool) (statement : Statement) : List String :=
  [statement.text escape, "\n"]

/-- The pieces of a graph: those of its statements. -/
def render (escape : Bool) (document : Document) (name : String) : Rendering :=
  ((statements document name).flatMap (Statement.pieces escape)).map Utf8.encode

/-- Writes a statement and then a newline. -/
def Statement.emit (escape : Bool) (statement : Statement) : Emitter Error Unit := do
  Emitter.text (statement.text escape)
  Emitter.text "\n"

mutual

/-- Writes a tree whose root has an identifier. -/
def emitTree (escape : Bool) (id : NodeId) : Tree → Emitter Error Unit
  | ⟨kind, children⟩ => do
    (Statement.node id kind.label).emit escape
    emitForest escape id 0 children

/-- Writes the children of a node, the first of which has an index. -/
def emitForest (escape : Bool) (id : NodeId) (index : Nat) : List Tree → Emitter Error Unit
  | [] => return
  | child :: rest => do
    (Statement.edge id (id.child index)).emit escape
    emitTree escape (id.child index) child
    emitForest escape id (index + 1) rest

end

/-- Writes the node of an entry and its tree. -/
def emitBody (escape : Bool) (id : NodeId) (entry : Entry) : Emitter Error Unit := do
  (Statement.node id entry.name).emit escape
  (Statement.edge id (id.child 0)).emit escape
  emitTree escape (id.child 0) entry.tree

/-- Writes the entry of a role at an index. -/
def emitEntry (escape : Bool) (role : Role) (index : Nat) (entry : Entry) :
    Emitter Error Unit := do
  let id := NodeId.entry role index
  (Statement.anchor role id).emit escape
  match role with
  | .call =>
    (Statement.openCluster id).emit escape
    emitBody escape id entry
    Statement.close.emit escape
  | .stream => emitBody escape id entry

/-- Writes the entries of a role, the first of which has an index. -/
def emitEntries (escape : Bool) (role : Role) (index : Nat) : List Entry → Emitter Error Unit
  | [] => return
  | entry :: rest => do
    emitEntry escape role index entry
    emitEntries escape role (index + 1) rest

/-- Writes the graph of a document with a name for its root. -/
def emit (escape : Bool) (document : Document) (name : String) : Emitter Error Unit := do
  Statement.openGraph.emit escape
  Statement.newRank.emit escape
  (Statement.root name).emit escape
  emitEntries escape .call 0 document.calls
  emitEntries escape .stream 0 document.streams
  Statement.close.emit escape

end AstView.Dot
