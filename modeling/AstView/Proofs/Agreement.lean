import AstView.Proofs.Dot.Declaration
import AstView.Proofs.Json.Labels
import AstView.Proofs.Json.Reader
import AstView.Proofs.TreeView.Line

/-!
# Three views of one document

The graph, the tree view and the JSON object are written by three recursions of their own. Read back
from their bytes, all of them list the same entries and values in the same order: the graph and the
tree view with the same identifiers, and all three with the same labels. The graph has its labels as
they stand, so no name and no text of an error may have a newline.
-/
namespace AstView

open Text (lines)

/-- The lines of the tree view show the identifiers and labels that the graph declares, the lines
without the identifiers are those of the tree view that shows none, and walking the JSON object in
either layout gives the same labels. -/
theorem views_agree (document : Document) (name : String) (oneLine : '\n' ∉ name.toList)
    (flat : document.OneLine) :
    ∃ graph tree plain : String,
      Utf8.decode (Dot.render false document name).bytes = .ok graph ∧
      Utf8.decode (TreeView.render true document name).bytes = .ok tree ∧
      Utf8.decode (TreeView.render false document name).bytes = .ok plain ∧
      let shown := document.pairs.map fun (id, label) => (id.text, label)
      (lines tree).filterMap TreeView.pair? = shown ∧
      (lines graph).filterMap Dot.declaration? = shown ∧
      TreeView.withoutIds tree = plain ∧
      ∀ layout, (Json.read (Json.render layout document name).bytes).bind Json.labels? =
        some (shown.map (·.2)) := by
  refine ⟨Dot.graphText false document name, TreeView.treeText true document name,
    TreeView.treeText false document name, ?_, ?_, ?_, ?_⟩
  · rw [Dot.bytes_render, Utf8.decode_encode]
  · rw [TreeView.bytes_render, Utf8.decode_encode]
  · rw [TreeView.bytes_render, Utf8.decode_encode]
  · intro shown
    have labels : shown.map (·.2) = document.pairs.map (·.2) := by
      rw [List.map_map]
      rfl
    refine ⟨TreeView.pairs_treeText oneLine flat, Dot.declarations_graphText oneLine flat,
      TreeView.withoutIds_treeText oneLine flat, fun layout => ?_⟩
    rw [Json.read_render, Option.bind_some, Json.labels?_ofDocument, labels]

/-- A document with names and an error that look like what stands around labels. -/
def lookalike : Document where
  calls := [⟨"a [c0v0]", ⟨.error [0x5B, 0x63, 0x30, 0x5D, 0xFF], [⟨.bytes [0xAB], []⟩]⟩⟩]
  streams := [⟨"\", shape=\"box\"]", .nil⟩]

theorem views_agree_lookalike :
    '\n' ∉ "c0 [label =\"a\"]".toList ∧ lookalike.OneLine ∧
      (∃ graph tree,
        Utf8.decode (Dot.render false lookalike "c0 [label =\"a\"]").bytes = .ok graph ∧
        Utf8.decode (TreeView.render true lookalike "c0 [label =\"a\"]").bytes = .ok tree ∧
        (lines tree).filterMap TreeView.pair? = (lines graph).filterMap Dot.declaration?) ∧
      (Json.read (Json.render .pretty lookalike "c0 [label =\"a\"]").bytes).bind Json.labels? =
        some ["a [c0v0]", "ERROR([c0]\uFFFD)", "BYTES(0xab)", "\", shape=\"box\"]", "NIL"] := by
  have single : '\n' ∉ "c0 [label =\"a\"]".toList := by decide
  have flat : lookalike.OneLine := by decide
  obtain ⟨graph, tree, plain, graphRead, treeRead, -, shown, declared, -, walked⟩ :=
    views_agree lookalike "c0 [label =\"a\"]" single flat
  refine ⟨single, flat, ⟨graph, tree, graphRead, treeRead, shown.trans declared.symm⟩, ?_⟩
  exact (walked .pretty).trans rfl

end AstView
