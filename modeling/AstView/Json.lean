import AstView.Document
import AstView.Json.Serializer

/-!
# Documents as JSON

A document becomes an object with its name, its calls and its streams. An entry has a name and
a tree, under `result` for a call and `filter` for a stream. A value has its type, its payload
if it has one and its children. Numbers and truth values stay what they are; the text of an
error and bytes become the text that labels show. The name is not part of the document: `emit`
writes it as the first member of an object and merges the object of the document into that.
-/
namespace AstView.Json

/-- The payload of a kind, for the kinds that have one. -/
def payload : Kind → Option Value
  | .uint64 value => some (.number value.toNat)
  | .arg index => some (.number index.toNat)
  | .param index => some (.number index.toNat)
  | .bool value => some (.bool value)
  | .error text => some (.string (Utf8.lossy text))
  | .bytes value => some (.string (Kind.bytesText value))
  | .node _ => none

/-- The payload of a kind as a member, or none. -/
def payloadMember (kind : Kind) : List (String × Value) :=
  match payload kind with
  | some value => [("payload", value)]
  | none => []

mutual

/-- The object of a value and of the values below it. -/
def ofTree : Tree → Value
  | ⟨kind, children⟩ =>
    .object (("kind", .string kind.tag.text)
      :: (payloadMember kind ++ [("children", .array (ofForest children))]))

/-- The objects of some values. -/
def ofForest : List Tree → List Value
  | [] => []
  | tree :: rest => ofTree tree :: ofForest rest

end

/-- The name under which an entry has its tree. -/
def treeKey : Role → String
  | .call => "result"
  | .stream => "filter"

/-- The object of an entry. -/
def ofEntry (role : Role) (entry : Entry) : Value :=
  .object [("name", .string entry.name), (treeKey role, ofTree entry.tree)]

/-- The object of a document. -/
def ofBody (document : Document) : Value :=
  .object [
    ("calls", .array (document.calls.map (ofEntry .call))),
    ("streams", .array (document.streams.map (ofEntry .stream)))]

/-- The object of a document with a name. -/
def ofDocument (document : Document) (name : String) : Value :=
  .object [
    ("name", .string name),
    ("calls", .array (document.calls.map (ofEntry .call))),
    ("streams", .array (document.streams.map (ofEntry .stream)))]

/-- The pieces of the object: its tokens and then a newline. -/
def render (layout : Layout) (document : Document) (name : String) : Rendering :=
  ((ofDocument document name).tokens layout 0 ++ ["\n"]).map Utf8.encode

/-- Writes the object of a document with a name. -/
def emitDocument (layout : Layout) (document : Document) (name : String) :
    Emitter Fault Unit := do
  emitToken "\x7b"
  let first ← emitMembers layout 1 true [("name", .string name)]
  let empty ← emitMerged layout 1 first (ofBody document)
  emitEnd layout 0 empty "\x7d"

/-- Writes the object and then a newline. -/
def emit (layout : Layout) (document : Document) (name : String) : Emitter Error Unit := do
  (emitDocument layout document name).adapt Error.ofFault
  Emitter.text "\n"

end AstView.Json
