import AstView.Dot
import AstView.Json
import AstView.Parameters
import AstView.TreeView

/-!
# Formats

A format renders a document under a name, with parameters or without. The parameters are
checked before the rendering begins, so a refusal comes before the first byte. Three formats are
built in: the graph, the tree view and JSON. Each has one parameter, a truth value. A format says
what it renders without parameters and, apart from that, what value a parameter has that is not
given.
-/
namespace AstView

/-- A way to render documents. -/
structure Format where
  /-- The name of the format. -/
  name : String
  /-- A phrase for the user. -/
  description : String := ""
  /-- The extensions of files of this format, without the dot. -/
  extensions : List String := []
  /-- Writes a document under a name. -/
  render : Document → String → Emitter Error Unit
  /-- The same with parameters. -/
  renderWith : Parameters → Document → String → Except Refusal (Emitter Error Unit)

/-- Parameters that a format does not support. -/
def Error.ofRefusal (refusal : Refusal) : Error := .notSupported refusal.message

namespace Format

/-- A format that takes no parameters. -/
def plain (name description : String) (extensions : List String)
    (render : Document → String → Rendering) : Format where
  name
  description
  extensions
  render document label := .pieces (render document label)
  renderWith parameters document label :=
    if parameters.isEmpty then .ok (.pieces (render document label)) else .error (.anything name)

/-- A format with one parameter, a truth value: the value without parameters, and the value with
parameters among which it is not. -/
def switched (name description : String) (extensions : List String) (knob : String)
    (plain unset : Bool) (emit : Bool → Document → String → Emitter Error Unit) : Format where
  name
  description
  extensions
  render := emit plain
  renderWith parameters document label := do
    parameters.check name [knob]
    let value ← parameters.flag knob unset
    return emit value document label

/-- Writes a document under a name to a sink. -/
def write (format : Format) (document : Document) (label : String) (sink : Sink) :
    Sink × Except Error Unit :=
  sink.run (format.render document label)

/-- Writes a document under a name to a sink, with parameters. -/
def writeWith (format : Format) (parameters : Parameters) (document : Document) (label : String)
    (sink : Sink) : Sink × Except Error Unit :=
  match format.renderWith parameters document label with
  | .ok emitter => sink.run emitter
  | .error refusal => (sink, .error (.ofRefusal refusal))

/-- The text of a document under a name. -/
def serialize (format : Format) (document : Document) (label : String) : Except Error String :=
  match Sink.memory.run (format.render document label) with
  | (sink, .ok ()) =>
    (Utf8.decode sink.written).mapError fun fault => .serialization fault.message
  | (_, .error error) => .error error

/-- The graph of a document; labels are escaped on demand. -/
def dot : Format :=
  switched "dot" "Graphviz digraph of calls, streams and their value trees" ["dot", "gv"]
    "escape-labels" false false Dot.emit

/-- The tree view of a document; lines show identifiers on demand. -/
def treeView : Format :=
  switched "treeviz" "Visual tree representation with indentation and Unicode icons"
    ["tree", "treeviz"] "show-ids" false false TreeView.emit

/-- The JSON object of a document, in the pretty layout unless that is turned off. -/
def json : Format :=
  switched "json" "Decoded document as JSON" ["json"] "pretty" true true fun pretty =>
    Json.emit (if pretty then .pretty else .compact)

/-- The formats that are always there. -/
def builtIn : List Format := [dot, treeView, json]

end Format

end AstView
