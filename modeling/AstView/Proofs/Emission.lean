import AstView.Dot
import AstView.Json
import AstView.Proofs.Document
import AstView.Proofs.Sink
import AstView.TreeView

/-!
# What emitters write

An emitter of a view writes one text after the other and stops at the first that does not go in
(`Emits`). Texts of two emitters in a row are those of the first and then those of the second, so
the emitters of a document are followed step by step on their way through it. In the end each gives
a sink what the pieces of its view give it (`Dot.run_emit`, `TreeView.run_emit`, `Json.run_emit`).
Then no failure goes unnoticed, nothing is written behind one, and the only fault is that of the
sink: the object of a document can always be merged into another one.
-/
namespace AstView

/-- Pieces in a row are the first ones and, if these go in, the others. -/
theorem Sink.writeAll_append (sink : Sink) (first second : Rendering) :
    sink.writeAll (first ++ second) = match sink.writeAll first with
      | (next, none) => next.writeAll second
      | (next, some exhaustion) => (next, some exhaustion) := by
  induction first generalizing sink with
  | nil => rfl
  | cons piece rest ih =>
    rw [List.cons_append, writeAll, writeAll]
    obtain ⟨next, failure⟩ := sink.write piece
    cases failure with
    | none => exact ih next
    | some exhaustion => rfl

namespace Emitter

/-- An emitter writes some texts up to the first that does not go in, and fails there. If all go in,
it ends with a result. -/
def Emits {ε α : Type} (fail : Exhaustion → ε) (emitter : Emitter ε α) (texts : List String)
    (result : α) : Prop :=
  ∀ sink : Sink, emitter.run.run sink = match sink.writeAll (texts.map Utf8.encode) with
    | (next, none) => (.ok result, next)
    | (next, some exhaustion) => (.error (fail exhaustion), next)

variable {ε δ α β : Type} {fail : Exhaustion → ε}

/-- Without a step nothing is written. -/
theorem emits_pure (result : α) : Emits fail (pure result) [] result := fun _ => rfl

/-- A piece is written as one. -/
theorem emits_piece (text : String) : Emits id (piece (Utf8.encode text)) [text] () := by
  intro sink
  have step : (piece (Utf8.encode text)).run.run sink = match sink.write (Utf8.encode text) with
      | (next, none) => (.ok (), next)
      | (next, some exhaustion) => (.error exhaustion, next) := rfl
  rw [step, List.map_singleton, Sink.writeAll]
  obtain ⟨next, failure⟩ := sink.write (Utf8.encode text)
  cases failure <;> rfl

/-- The texts of two emitters in a row are those of the first and then those of the second. -/
theorem Emits.bind {emitter : Emitter ε α} {next : α → Emitter ε β} {first second : List String}
    {middle : α} {result : β} (front : Emits fail emitter first middle)
    (back : Emits fail (next middle) second result) :
    Emits fail (emitter >>= next) (first ++ second) result := by
  intro sink
  rw [ExceptT.run_bind, StateT.run_bind, front sink, List.map_append, Sink.writeAll_append]
  obtain ⟨later, failure⟩ := sink.writeAll (first.map Utf8.encode)
  cases failure with
  | none => exact back later
  | some exhaustion => rfl

/-- The same if the second emitter does not ask how the first ended. -/
theorem Emits.andThen {emitter : Emitter ε Unit} {next : Emitter ε β} {first second : List String}
    {result : β} (front : Emits fail emitter first ()) (back : Emits fail next second result) :
    Emits fail (do emitter; next) (first ++ second) result :=
  front.bind back

/-- Failures can be given another form. -/
theorem Emits.adapt {emitter : Emitter ε α} {texts : List String} {result : α}
    (own : Emits fail emitter texts result) (form : ε → δ) :
    Emits (form ∘ fail) (ExceptT.adapt form emitter) texts result := by
  intro sink
  rw [ExceptT.run_adapt, StateT.run_map, own sink]
  obtain ⟨later, failure⟩ := sink.writeAll (texts.map Utf8.encode)
  cases failure <;> rfl

theorem emits_text (text : String) : Emits Error.ofExhaustion (Emitter.text text) [text] () :=
  (emits_piece text).adapt Error.ofExhaustion

/-- What a sink has in the end, and how that ended, is up to the texts alone. -/
theorem Emits.run_eq {emitter : Emitter Error Unit} {texts : List String}
    (own : Emits Error.ofExhaustion emitter texts ()) (sink : Sink) :
    sink.run emitter = sink.put (texts.map Utf8.encode) := by
  rw [Sink.run, own sink, Sink.put]
  obtain ⟨next, failure⟩ := sink.writeAll (texts.map Utf8.encode)
  cases failure <;> rfl

/-- An emitter writes the texts of some parts in order. -/
def EmitsParts {γ : Type} (texts : γ → List String) (emitter : Emitter Error Unit)
    (parts : List γ) : Prop :=
  Emits Error.ofExhaustion emitter (parts.flatMap texts) ()

section
variable {γ : Type} {texts : γ → List String}

theorem emitsParts_nil : EmitsParts texts (pure ()) [] := emits_pure ()

theorem emitsParts_singleton {emitter : Emitter Error Unit} {part : γ}
    (own : Emits Error.ofExhaustion emitter (texts part) ()) : EmitsParts texts emitter [part] := by
  rw [EmitsParts, List.flatMap_singleton]
  exact own

theorem EmitsParts.andThen {emitter next : Emitter Error Unit} {first second : List γ}
    (front : EmitsParts texts emitter first) (back : EmitsParts texts next second) :
    EmitsParts texts (do emitter; next) (first ++ second) := by
  rw [EmitsParts, List.flatMap_append]
  exact Emits.andThen front back

end

end Emitter

open Emitter

/-! ## Graphs -/

namespace Dot

variable (escape : Bool)

/-- An emitter writes some statements. -/
abbrev EmitsStatements : Emitter Error Unit → List Statement → Prop :=
  EmitsParts (Statement.pieces escape)

theorem emits_statement (one : Statement) : EmitsStatements escape (one.emit escape) [one] :=
  emitsParts_singleton ((emits_text _).andThen (emits_text _))

theorem emits_forest (id : NodeId) (index : Nat) (forest : List Tree) :
    EmitsStatements escape (emitForest escape id index forest)
      (forestStatements id index forest) := by
  induction forest using Tree.forest_induction generalizing id index with
  | nil => exact emitsParts_nil
  | cons kind children rest below behind =>
    have edge := emits_statement escape (.edge id (id.child index))
    have node := emits_statement escape (.node (id.child index) kind.label)
    have tree := node.andThen (below (id.child index) 0)
    exact edge.andThen (tree.andThen (behind id (index + 1)))

theorem emits_tree (id : NodeId) (tree : Tree) :
    EmitsStatements escape (emitTree escape id tree) (treeStatements id tree) := by
  obtain ⟨kind, children⟩ := tree
  exact (emits_statement escape (.node id kind.label)).andThen (emits_forest escape id 0 children)

theorem emits_body (id : NodeId) (entry : Entry) :
    EmitsStatements escape (emitBody escape id entry) (entryBody id entry) :=
  (emits_statement escape _).andThen
    ((emits_statement escape _).andThen (emits_tree escape (id.child 0) entry.tree))

theorem emits_entry (role : Role) (index : Nat) (entry : Entry) :
    EmitsStatements escape (emitEntry escape role index entry)
      (entryStatements role index entry) := by
  have anchor := emits_statement escape (.anchor role (.entry role index))
  have body := emits_body escape (.entry role index) entry
  -- Only a call stands in a cluster.
  cases role with
  | call =>
    have opened := emits_statement escape (.openCluster (.entry .call index))
    exact anchor.andThen (opened.andThen (body.andThen (emits_statement escape .close)))
  | stream => exact anchor.andThen body

theorem emits_entries (role : Role) (index : Nat) (entries : List Entry) :
    EmitsStatements escape (emitEntries escape role index entries)
      (entriesStatements role index entries) := by
  induction entries generalizing index with
  | nil => exact emitsParts_nil
  | cons entry rest ih => exact (emits_entry escape role index entry).andThen (ih (index + 1))

theorem emits_statements (document : Document) (name : String) :
    EmitsStatements escape (emit escape document name) (statements document name) := by
  have calls := emits_entries escape .call 0 document.calls
  have streams := emits_entries escape .stream 0 document.streams
  have entries := calls.andThen (streams.andThen (emits_statement escape .close))
  rw [← List.append_assoc] at entries
  exact (emits_statement escape .openGraph).andThen ((emits_statement escape .newRank).andThen
    ((emits_statement escape (.root name)).andThen entries))

/-- Writing a graph gives a sink the pieces of the graph. -/
theorem run_emit (document : Document) (name : String) (sink : Sink) :
    sink.run (emit escape document name) = sink.put (render escape document name) :=
  (emits_statements escape document name).run_eq sink

end Dot

/-! ## Tree views -/

namespace TreeView

variable (showIds : Bool)

/-- An emitter writes some lines. -/
abbrev EmitsLines : Emitter Error Unit → List Line → Prop := EmitsParts (Line.pieces showIds)

theorem emits_line (line : Line) : EmitsLines showIds (line.emit showIds) [line] := by
  apply emitsParts_singleton
  obtain ⟨guides, last, icon, label, id⟩ := line
  -- Without an identifier nothing is written between the label and the newline.
  have newline := emits_text "\n"
  have front := emits_text (Line.front ⟨guides, last, icon, label, id⟩)
  cases showIds with
  | false => exact front.andThen ((emits_pure ()).andThen newline)
  | true =>
    cases id with
    | none => exact front.andThen ((emits_pure ()).andThen newline)
    | some id => exact front.andThen ((emits_text (idText (some id))).andThen newline)

theorem emits_forest (id : NodeId) (guides : List Bool) (index : Nat) (forest : List Tree) :
    EmitsLines showIds (emitForest showIds id guides index forest)
      (forestLines id guides index forest) := by
  induction forest using Tree.forest_induction generalizing id guides index with
  | nil => exact emitsParts_nil
  | cons kind children rest below behind =>
    have line := emits_line showIds
      ⟨guides, rest.isEmpty, kind.icon, kind.label, some (id.child index)⟩
    have tree := line.andThen (below (id.child index) (TreeView.below guides rest.isEmpty) 0)
    exact tree.andThen (behind id guides (index + 1))

theorem emits_tree (id : NodeId) (guides : List Bool) (last : Bool) (tree : Tree) :
    EmitsLines showIds (emitTree showIds id guides last tree) (treeLines id guides last tree) := by
  obtain ⟨kind, children⟩ := tree
  have line := emits_line showIds ⟨guides, last, kind.icon, kind.label, some id⟩
  exact line.andThen (emits_forest showIds id (below guides last) 0 children)

theorem emits_entries (role : Role) (guides : List Bool) (index : Nat) (entries : List Entry) :
    EmitsLines showIds (emitEntries showIds role guides index entries)
      (entriesLines role guides index entries) := by
  induction entries generalizing index with
  | nil => exact emitsParts_nil
  | cons entry rest ih =>
    let id := NodeId.entry role index
    have line := emits_line showIds ⟨guides, rest.isEmpty, .entry role, entry.name, some id⟩
    have tree := emits_tree showIds (id.child 0) (below guides rest.isEmpty) true entry.tree
    have whole := line.andThen (tree.andThen (ih (index + 1)))
    rw [← List.append_assoc] at whole
    exact whole

theorem emits_section (role : Role) (last : Bool) (entries : List Entry) :
    EmitsLines showIds (emitSection showIds role last entries) (sectionLines role last entries) :=
  (emits_line showIds _).andThen (emits_entries showIds role (below [] last) 0 entries)

theorem emits_lines (document : Document) :
    EmitsLines showIds (do
      emitSection showIds .call false document.calls
      emitSection showIds .stream true document.streams) (lines document) :=
  (emits_section showIds .call false document.calls).andThen
    (emits_section showIds .stream true document.streams)

/-- Writing a tree view gives a sink the pieces of the tree view. -/
theorem run_emit (document : Document) (name : String) (sink : Sink) :
    sink.run (emit showIds document name) = sink.put (render showIds document name) := by
  have header := emits_text (header document name ++ "\n")
  exact (header.andThen (emits_lines showIds document)).run_eq sink

end TreeView

/-! ## JSON -/

namespace Json

variable (layout : Layout)

theorem emits_token (text : String) : Emits Fault.io (emitToken text) [text] () :=
  (emits_piece text).adapt Fault.io

/-- The comma before what follows, if something follows and it is not the first. -/
def commaFor {α : Type} (first : Bool) (rest : List α) : List String :=
  if first then [] else separator rest

theorem emits_start {α : Type} (depth : Nat) (first : Bool) (item : α) (rest : List α) :
    Emits Fault.io (emitStart layout depth first)
      (commaFor first (item :: rest) ++ [layout.lineBreak depth]) () := by
  have lineBreak := emits_token (layout.lineBreak depth)
  cases first with
  | true => exact (emits_pure ()).andThen lineBreak
  | false => exact (emits_token ",").andThen lineBreak

theorem emits_end {α : Type} (depth : Nat) (content : List α) (bracket : String) :
    Emits Fault.io (emitEnd layout depth content.isEmpty bracket)
      (closing layout depth content ++ [bracket]) () := by
  have bracket := emits_token bracket
  cases content with
  | nil => exact (emits_pure ()).andThen bracket
  | cons => exact (emits_token (layout.lineBreak depth)).andThen bracket

/-- Brackets are put around what stands between them. -/
theorem emits_bracketed {α : Type} (depth : Nat) (opening bracket : String) {content : List α}
    {emitter : Emitter Fault Bool} {texts : List String}
    (own : Emits Fault.io emitter texts content.isEmpty) :
    Emits Fault.io (do
        emitToken opening
        let empty ← emitter
        emitEnd layout depth empty bracket)
      (opening :: (texts ++ closing layout depth content ++ [bracket])) () := by
  rw [List.append_assoc]
  exact (emits_token opening).andThen (own.bind (emits_end layout depth content bracket))

mutual

/-- Writing a value writes its tokens. -/
theorem Value.emits_tokens (depth : Nat) (value : Value) :
    Emits Fault.io (value.emit layout depth) (value.tokens layout depth) () := by
  match value with
  | .string text => exact emits_token (quote text)
  | .number value => exact emits_token (toString value)
  | .bool value => exact emits_token (if value then "true" else "false")
  | .array items => exact emits_bracketed layout depth "[" "]" (emits_items (depth + 1) true items)
  | .object members =>
    exact emits_bracketed layout depth "\x7b" "\x7d" (emits_members (depth + 1) true members)

/-- Writing items writes their tokens, with a comma before them if they are not the first ones. -/
theorem emits_items (depth : Nat) (first : Bool) (items : List Value) :
    Emits Fault.io (emitItems layout depth first items)
      (commaFor first items ++ itemTokens layout depth items) (first && items.isEmpty) := by
  match items with
  | [] => cases first <;> exact emits_pure _
  | item :: rest =>
    -- The emitter has a comma before every later item, the tokens have it behind the item before.
    have start := emits_start layout depth first item rest
    have whole := start.andThen ((item.emits_tokens depth).andThen (emits_items depth false rest))
    have texts : commaFor first (item :: rest) ++ itemTokens layout depth (item :: rest) =
        commaFor first (item :: rest) ++ [layout.lineBreak depth] ++ (item.tokens layout depth ++
          (commaFor false rest ++ itemTokens layout depth rest)) := by
      simp [itemTokens, commaFor]
    rw [texts, List.isEmpty_cons, Bool.and_false]
    exact whole

/-- Writing members writes their tokens, with a comma before them if they are not the first ones. -/
theorem emits_members (depth : Nat) (first : Bool) (members : List (String × Value)) :
    Emits Fault.io (emitMembers layout depth first members)
      (commaFor first members ++ memberTokens layout depth members) (first && members.isEmpty) := by
  match members with
  | [] => cases first <;> exact emits_pure _
  | (name, value) :: rest =>
    have start := emits_start layout depth first (name, value) rest
    have tail := (value.emits_tokens depth).andThen (emits_members depth false rest)
    have whole := start.andThen ((emits_token (quote name)).andThen
      ((emits_token layout.colon).andThen tail))
    have texts : commaFor first ((name, value) :: rest) ++
          memberTokens layout depth ((name, value) :: rest) =
        commaFor first ((name, value) :: rest) ++ [layout.lineBreak depth] ++ ([quote name] ++
          ([layout.colon] ++ (value.tokens layout depth ++
            (commaFor false rest ++ memberTokens layout depth rest)))) := by
      simp [memberTokens, commaFor]
    rw [texts, List.isEmpty_cons, Bool.and_false]
    exact whole

end

/-- The tokens of members in a row have a comma between the first ones and the others. -/
theorem memberTokens_cons (depth : Nat) (name : String) (value : Value)
    (rest : List (String × Value)) : memberTokens layout depth ((name, value) :: rest) =
      memberTokens layout depth [(name, value)] ++
        (commaFor false rest ++ memberTokens layout depth rest) := by
  simp [memberTokens, commaFor, separator]

/-- The members of the object of a document are merged into the object with its name. -/
theorem emits_document (document : Document) (name : String) :
    Emits Fault.io (emitDocument layout document name)
      ((ofDocument document name).tokens layout 0) () := by
  let entries : List (String × Value) := [
    ("calls", .array (document.calls.map (ofEntry .call))),
    ("streams", .array (document.streams.map (ofEntry .stream)))]
  have own := emits_members layout 1 true [("name", .string name)]
  have merged : Emits Fault.io (emitMerged layout 1 false (ofBody document))
      (commaFor false entries ++ memberTokens layout 1 entries) false :=
    emits_members layout 1 false entries
  have ends := emits_end layout 0 entries "\x7d"
  have texts : (ofDocument document name).tokens layout 0 = ["\x7b"] ++
      (memberTokens layout 1 [("name", .string name)] ++
        ((commaFor false entries ++ memberTokens layout 1 entries) ++
          (closing layout 0 entries ++ ["\x7d"]))) := by
    rw [ofDocument, Value.tokens, memberTokens_cons]
    simp only [List.append_assoc]
    rfl
  rw [texts]
  exact (emits_token "\x7b").andThen (own.bind (merged.bind ends))

/-- Writing the object of a document gives a sink its tokens and a newline. -/
theorem run_emit (document : Document) (name : String) (sink : Sink) :
    sink.run (emit layout document name) = sink.put (render layout document name) := by
  have object := (emits_document layout document name).adapt Error.ofFault
  exact (object.andThen (emits_text "\n")).run_eq sink

end Json

end AstView
