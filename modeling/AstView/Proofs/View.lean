import AstView.Format
import AstView.Proofs.Dot.Line
import AstView.Proofs.Emission
import AstView.Proofs.Json.Reader
import AstView.Proofs.TreeView.Line

/-!
# The views of a document

A built-in format and the value of its parameter give a view of every document. Each view is one
text (`bytes_rendering`), writing it goes through the format like any other request, and its emitter
gives a sink what its pieces give it (`write_eq`). What a sink without enough room keeps of it is
therefore what sinks keep of any rendering.
-/
namespace AstView

/-- A built-in format with a value for its parameter. -/
inductive View where
  /-- The graph, with labels escaped or not. -/
  | graph (escape : Bool)
  /-- The tree view, with identifiers or without. -/
  | tree (showIds : Bool)
  /-- The JSON object in a layout. -/
  | json (layout : Json.Layout)
  deriving Repr, DecidableEq

namespace View

/-- The format of a view. -/
def format : View → Format
  | graph _ => .dot
  | tree _ => .treeView
  | json _ => .json

/-- The parameters that ask for a view. -/
def parameters : View → Parameters
  | graph escape => .ofList [("escape-labels", Kind.flagText escape)]
  | tree showIds => .ofList [("show-ids", Kind.flagText showIds)]
  | json layout => .ofList [("pretty", Kind.flagText (layout = .pretty))]

/-- The pieces of a view. -/
def rendering (view : View) (document : Document) (name : String) : Rendering :=
  match view with
  | graph escape => Dot.render escape document name
  | tree showIds => TreeView.render showIds document name
  | json layout => Json.render layout document name

/-- Writes a view step by step. -/
def emitter (view : View) (document : Document) (name : String) : Emitter Error Unit :=
  match view with
  | graph escape => Dot.emit escape document name
  | tree showIds => TreeView.emit showIds document name
  | json layout => Json.emit layout document name

/-- The text of a view. -/
def text (view : View) (document : Document) (name : String) : String :=
  match view with
  | graph escape => Dot.graphText escape document name
  | tree showIds => TreeView.treeText showIds document name
  | json layout => Json.documentText layout document name

/-- Writes a view by asking its format for it. -/
def write (view : View) (document : Document) (name : String) (sink : Sink) :
    Sink × Except Error Unit :=
  view.format.writeWith view.parameters document name sink

/-- The pieces of a view make up its text. -/
theorem bytes_rendering (view : View) (document : Document) (name : String) :
    (view.rendering document name).bytes = Utf8.encode (view.text document name) := by
  cases view with
  | graph escape => exact Dot.bytes_render escape document name
  | tree showIds => exact TreeView.bytes_render showIds document name
  | json layout => exact Json.bytes_render layout document name

/-- Step by step a sink gets the pieces of a view, up to the first that does not go in. -/
theorem run_emitter (view : View) (document : Document) (name : String) (sink : Sink) :
    sink.run (view.emitter document name) = sink.put (view.rendering document name) := by
  cases view with
  | graph escape => exact Dot.run_emit escape document name sink
  | tree showIds => exact TreeView.run_emit showIds document name sink
  | json layout => exact Json.run_emit layout document name sink

/-- The format of a view takes its parameters and gives its emitter. -/
theorem renderWith_parameters (view : View) (document : Document) (name : String) :
    view.format.renderWith view.parameters document name = .ok (view.emitter document name) := by
  cases view with
  | graph escape => cases escape <;> rfl
  | tree showIds => cases showIds <;> rfl
  | json layout => cases layout <;> rfl

/-- Writing a view puts its pieces into the sink. -/
theorem write_eq (view : View) (document : Document) (name : String) (sink : Sink) :
    view.write document name sink = sink.put (view.rendering document name) := by
  rw [write, Format.writeWith, renderWith_parameters]
  exact view.run_emitter document name sink

/-- A sink in memory gets the whole text of a view. A sink with limited room gets the bytes of it
that there is room for; that is a success if these are all, and otherwise an error with the text
of the sink. -/
theorem write_limited (view : View) (document : Document) (name : String) (room : Nat)
    (exhaustion : Exhaustion) :
    let full := (view.write document name .memory).1.written
    let outcome := view.write document name (.limited room exhaustion)
    full = Utf8.encode (view.text document name) ∧
      (view.write document name .memory).2 = .ok () ∧
      (outcome.2 = .ok () ↔ full.length ≤ room) ∧
      if full.length ≤ room then outcome.2 = .ok () ∧ outcome.1.written = full
      else
        outcome.2 = .error (.write (match exhaustion with
          | .refuses reason => reason
          | .stalls => "failed to write whole buffer")) ∧
        outcome.1.written = full.take room := by
  intro full outcome
  obtain ⟨whole, success⟩ := Sink.put_memory (view.rendering document name)
  obtain ⟨kept, result⟩ := Sink.put_limited room exhaustion (view.rendering document name)
  rw [← write_eq] at whole success kept result
  have known : full = (view.rendering document name).bytes := whole
  rw [← known] at kept result
  change outcome.1.written = full.take room at kept
  change outcome.2 = _ at result
  refine ⟨known.trans (view.bytes_rendering document name), success, ?_⟩
  by_cases fits : full.length ≤ room
  · rw [if_pos fits] at result ⊢
    have all : full.take room = full := List.take_of_length_le fits
    exact ⟨iff_of_true result fits, result, kept.trans all⟩
  · rw [if_neg fits] at result ⊢
    have failed : outcome.2 ≠ .ok () := by
      rw [result]
      exact nofun
    refine ⟨iff_of_false failed fits, ?_, kept⟩
    cases exhaustion with
    | refuses reason => exact result
    | stalls => exact result

end View

end AstView
