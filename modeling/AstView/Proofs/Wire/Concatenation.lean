import AstView.Proofs.Wire.RoundTrip

/-!
# Files in a row

The bytes of a file and then those of another one are a file again, with the entries of both. A
reader that came to the end of the first goes on in the second with what it has
(`Reader.merge_append`), and a field adds its entry to those that there are without a look at them
(`Root.merge_beside`). A fault in the second file is the fault of both together, because an error
names the fields around it and no place. So the fields of calls and streams can stand in any
mixture that keeps the order of each.
-/
namespace AstView.Wire

/-! ## Two roots -/

namespace Reader

variable {α : Type} {reader : Reader α}

/-- Behind a message by itself, a reader goes on with what it has read of it. -/
theorem merge_append {bound : Nat} (fields : reader.PrefixBelow bound) {message merged : α}
    {first : Bytes} (short : first.length ≤ bound)
    (read : reader.merge 0 message first = .ok (merged, [])) (second : Bytes) :
    reader.merge 0 message (first ++ second) = reader.merge 0 merged second := by
  fun_induction reader.merge 0 message first with
  | case1 message bytes done =>
    cases read
    rfl
  | case2 => cases read
  | case3 => cases read
  | case4 message bytes more key afterKey decoded next left found ih =>
    have shorter := Key.decode_length decoded
    have notLonger := reader.field_length found
    obtain ⟨front, rfl, begins⟩ := Key.decode_prefix _ _ _ decoded
    obtain ⟨middle, rfl, goes⟩ := fields _ _ _ (by omega) _ _ found
    rw [List.append_assoc, List.append_assoc,
      reader.merge_field (begins _) (goes _) (Nat.zero_le _), ih (by omega) read]

end Reader

namespace Root

/-- The entries of two roots, each role in order. -/
def beside (first second : Root) : Root :=
  ⟨first.calls ++ second.calls, first.streams ++ second.streams⟩

/-- A root has nothing beside its entries. -/
theorem beside_default (root : Root) : root.beside {} = root := by
  simp only [beside, List.append_nil]

/-- A field does the same to a root, whatever entries stand before those of the root. -/
theorem field_beside (before root : Root) (key : Key) (bytes : Bytes) :
    reader.field (before.beside root) key bytes =
      into before.beside (reader.field root key bytes) := by
  change Root.field _ key bytes = into _ (Root.field root key bytes)
  unfold Root.field
  split
  · cases (Entry.reader .call).nested .calls {} key bytes with
    | error => rfl
    | ok => simp only [into, Except.map, beside, List.append_assoc]
  · cases (Entry.reader .stream).nested .streams {} key bytes with
    | error => rfl
    | ok => simp only [into, Except.map, beside, List.append_assoc]
  · cases key.skip bytes <;> rfl

/-- Reading does the same to a root, whatever entries stand before those of the root. -/
theorem merge_beside (before root : Root) (bytes : Bytes) :
    reader.merge 0 (before.beside root) bytes =
      into before.beside (reader.merge 0 root bytes) := by
  fun_induction reader.merge 0 root bytes with
  | case1 root bytes done =>
    rw [reader.merge_done done]
    rfl
  | case2 root bytes more fault failed =>
    rw [reader.merge_of_fault more failed]
    rfl
  | case3 root bytes more key afterKey decoded error failed =>
    have outer : reader.field (before.beside root) key afterKey = .error error := by
      rw [field_beside, failed]
      rfl
    rw [reader.merge_of_error decoded more outer]
    rfl
  | case4 root bytes more key afterKey decoded next left found ih =>
    have outer : reader.field (before.beside root) key afterKey =
        .ok (before.beside next, left) := by
      rw [field_beside, found]
      rfl
    rw [reader.merge_field decoded outer (Nat.zero_le _), ih]

/-- Behind the bytes of a root, a root is read as beside it. -/
theorem decode_append {first : Bytes} {root : Root} (accepted : decode first = .ok root)
    (second : Bytes) : decode (first ++ second) = (decode second).map root.beside := by
  have whole := decode_eq_ok_iff.1 accepted
  have fields := Root.reader_prefix first.length
  have begun := Reader.merge_append fields (Nat.le_refl _) whole second
  have goes := merge_beside root {} second
  rw [beside_default] at goes
  rw [decode, begun, goes, decode]
  cases reader.merge 0 {} second <;> rfl

end Root

end AstView.Wire

namespace AstView.Document

open Wire

/-! ## Two documents -/

/-- The entries of two documents, each role in order. -/
def beside (first second : Document) : Document :=
  ⟨first.calls ++ second.calls, first.streams ++ second.streams⟩

/-- The document of two roots is that of both documents. -/
theorem ofWire_beside (first second : Root) :
    ofWire (first.beside second) = (ofWire first).beside (ofWire second) := by
  simp only [ofWire, Root.beside, beside, List.map_append]

/-- Behind the bytes of a document, a document is loaded as beside it. -/
theorem load_append {first : Bytes} {own : Document} (accepted : load first = .ok own)
    (second : Bytes) : load (first ++ second) = (load second).map own.beside := by
  obtain ⟨root, decoded, rfl⟩ := load_eq_ok_iff.1 accepted
  rw [load, Root.decode_append decoded, load]
  cases Root.decode second with
  | error => rfl
  | ok other => exact congrArg Except.ok (ofWire_beside root other)

/-- No bytes are a document without entries. -/
theorem load_nil : load [] = .ok {} := by
  have done : Root.reader.merge 0 {} [] = .ok ({}, []) :=
    Root.reader.merge_done (Nat.le_refl 0)
  have none : Root.decode [] = .ok {} := Root.decode_eq_ok_iff.2 done
  rw [load, none]
  rfl

/-! ## Mixtures -/

/-- A list is a mixture of two lists that keeps the order of each. -/
inductive Interleaves {α : Type} : List α → List α → List α → Prop where
  /-- Nothing is a mixture of nothing. -/
  | nil : Interleaves [] [] []
  /-- The mixture goes on with the first list. -/
  | first {one : α} {first second mixed : List α} :
    Interleaves first second mixed → Interleaves (one :: first) second (one :: mixed)
  /-- The mixture goes on with the second list. -/
  | second {one : α} {first second mixed : List α} :
    Interleaves first second mixed → Interleaves first (one :: second) (one :: mixed)

/-- One list and then the other is a mixture of both. -/
theorem Interleaves.append {α : Type} (first second : List α) :
    Interleaves first second (first ++ second) := by
  induction first with
  | nil =>
    induction second with
    | nil => exact .nil
    | cons one rest ih => exact .second ih
  | cons one rest ih => exact .first ih

/-- Pieces with calls only and pieces with streams only are in every mixture the calls and the
streams that they are by themselves. -/
theorem load_interleaves {calls streams mixed : List Bytes}
    (mixture : Interleaves calls streams mixed)
    (onlyCalls : ∀ piece ∈ calls, ∃ found, load piece = .ok ⟨found, []⟩)
    (onlyStreams : ∀ piece ∈ streams, ∃ found, load piece = .ok ⟨[], found⟩) :
    ∃ foundCalls foundStreams, load calls.flatten = .ok ⟨foundCalls, []⟩ ∧
      load streams.flatten = .ok ⟨[], foundStreams⟩ ∧
      load mixed.flatten = .ok ⟨foundCalls, foundStreams⟩ := by
  induction mixture with
  | nil => exact ⟨[], [], load_nil, load_nil, load_nil⟩
  | @first piece calls streams mixed mixture ih =>
    obtain ⟨own, read⟩ := onlyCalls piece List.mem_cons_self
    obtain ⟨foundCalls, foundStreams, readCalls, readStreams, readMixed⟩ :=
      ih (fun other inside => onlyCalls other (List.mem_cons_of_mem _ inside)) onlyStreams
    refine ⟨own ++ foundCalls, foundStreams, ?_, readStreams, ?_⟩
    · rw [List.flatten_cons, load_append read, readCalls]
      rfl
    · rw [List.flatten_cons, load_append read, readMixed]
      rfl
  | @second piece calls streams mixed mixture ih =>
    obtain ⟨own, read⟩ := onlyStreams piece List.mem_cons_self
    obtain ⟨foundCalls, foundStreams, readCalls, readStreams, readMixed⟩ :=
      ih onlyCalls fun other inside => onlyStreams other (List.mem_cons_of_mem _ inside)
    refine ⟨foundCalls, own ++ foundStreams, readCalls, ?_, ?_⟩
    · rw [List.flatten_cons, load_append read, readStreams]
      rfl
    · rw [List.flatten_cons, load_append read, readMixed]
      rfl

/-- The fields of entries are loaded as those entries. -/
theorem load_entryFields (role : Role) {entries : List Wire.Entry}
    (fits : ∀ entry ∈ entries, entry.encodedLength < 2 ^ 64) :
    load (entries.map (Root.entryField role)).flatten =
      .ok (ofWire (({} : Root).add role entries)) := by
  have read (root : Root) : Root.reader.merge 0 root (entries.map (Root.entryField role)).flatten =
      .ok (root.add role entries, []) := by
    induction entries generalizing root with
    | nil =>
      rw [Root.add_nil]
      exact Root.reader.merge_done (Nat.le_refl 0)
    | cons entry rest ih =>
      have own := fits entry List.mem_cons_self
      have others := ih fun other inside => fits other (List.mem_cons_of_mem _ inside)
      rw [List.map_cons, List.flatten_cons, Root.merge_entryField role own, others, Root.add_add]
      rfl
  exact load_eq_ok_iff.2 ⟨_, Root.decode_eq_ok_iff.2 (read {}), rfl⟩

/-- The field of an entry is loaded as an entry of its role and nothing else. -/
theorem load_of_mem_entryFields {role : Role} {entries : List Wire.Entry}
    (fits : ∀ entry ∈ entries, entry.encodedLength < 2 ^ 64) {piece : Bytes}
    (inside : piece ∈ entries.map (Root.entryField role)) :
    ∃ entry, load piece = .ok (ofWire (({} : Root).add role [entry])) := by
  obtain ⟨entry, member, rfl⟩ := List.mem_map.1 inside
  have single : ∀ other ∈ [entry], other.encodedLength < 2 ^ 64 := by
    intro other same
    rw [List.mem_singleton.1 same]
    exact fits entry member
  have read := load_entryFields role single
  rw [List.map_singleton, List.flatten_singleton] at read
  exact ⟨entry, read⟩

/-- Behind bytes that are loaded, the entries of other bytes come behind theirs, and a fault in
the other bytes stays the same fault. So pieces that hold calls only and pieces that hold streams
only make the same document in every mixture that keeps the order of each; the fields of the
entries of a root make the document of that root. -/
theorem load_concatenation :
    (∀ first own, load first = .ok own → ∀ second,
      (∀ other, load second = .ok other →
        load (first ++ second) =
          .ok ⟨own.calls ++ other.calls, own.streams ++ other.streams⟩) ∧
      ∀ error, load second = .error error → load (first ++ second) = .error error) ∧
    (∀ calls streams : List Bytes, (∀ piece ∈ calls, ∃ found, load piece = .ok ⟨found, []⟩) →
      (∀ piece ∈ streams, ∃ found, load piece = .ok ⟨[], found⟩) →
      ∃ foundCalls foundStreams, load calls.flatten = .ok ⟨foundCalls, []⟩ ∧
        load streams.flatten = .ok ⟨[], foundStreams⟩ ∧
        ∀ mixed, Interleaves calls streams mixed →
          load mixed.flatten = .ok ⟨foundCalls, foundStreams⟩) ∧
    ∀ root : Root, (∀ entry ∈ root.calls ++ root.streams, entry.encodedLength < 2 ^ 64) →
      ∀ mixed, Interleaves (root.calls.map (Root.entryField .call))
        (root.streams.map (Root.entryField .stream)) mixed →
        load mixed.flatten = .ok (ofWire root) := by
  refine ⟨?_, ?_, ?_⟩
  · intro first own accepted second
    constructor
    · intro other read
      rw [load_append accepted, read]
      rfl
    · intro error failed
      rw [load_append accepted, failed]
      rfl
  · intro calls streams onlyCalls onlyStreams
    obtain ⟨foundCalls, foundStreams, readCalls, readStreams, -⟩ :=
      load_interleaves (.append calls streams) onlyCalls onlyStreams
    refine ⟨foundCalls, foundStreams, readCalls, readStreams, fun mixed mixture => ?_⟩
    obtain ⟨sameCalls, sameStreams, againCalls, againStreams, readMixed⟩ :=
      load_interleaves mixture onlyCalls onlyStreams
    cases readCalls.symm.trans againCalls
    cases readStreams.symm.trans againStreams
    exact readMixed
  · intro root fits mixed mixture
    have calls := fun entry inside => fits entry (List.mem_append_left root.streams inside)
    have streams := fun entry inside => fits entry (List.mem_append_right root.calls inside)
    obtain ⟨foundCalls, foundStreams, readCalls, readStreams, readMixed⟩ := by
      apply load_interleaves mixture
      · intro piece inside
        obtain ⟨entry, read⟩ := load_of_mem_entryFields calls inside
        exact ⟨_, read⟩
      · intro piece inside
        obtain ⟨entry, read⟩ := load_of_mem_entryFields streams inside
        exact ⟨_, read⟩
    cases readCalls.symm.trans (load_entryFields .call calls)
    cases readStreams.symm.trans (load_entryFields .stream streams)
    exact readMixed

/-- A call or a stream without a value. -/
def lone : Wire.Entry := { name := "a" }

/-- A cut behind the length of a call stays what it is behind a call, and a stream in front of a
call stands with the streams. -/
theorem load_concatenation_lone :
    load (Root.entryField .call lone) = .ok ⟨[⟨"a", .nil⟩], []⟩ ∧
      load (Root.entryField .call lone ++ [0x0a, 0x01]) = .error ⟨[.calls], .underflow⟩ ∧
      load [Root.entryField .stream lone, Root.entryField .call lone].flatten =
        .ok ⟨[⟨"a", .nil⟩], [⟨"a", .nil⟩]⟩ := by
  have fits : ∀ entry ∈ [lone], entry.encodedLength < 2 ^ 64 := by decide
  have both : ∀ entry ∈ [lone] ++ [lone], entry.encodedLength < 2 ^ 64 := by decide
  have call := load_entryFields .call fits
  have cut : load [0x0a, 0x01] = .error ⟨[.calls], .underflow⟩ := by cbv
  rw [List.map_singleton, List.flatten_singleton] at call
  obtain ⟨behind, -, mixtures⟩ := load_concatenation
  refine ⟨call, (behind _ _ call _).2 _ cut, ?_⟩
  exact mixtures ⟨[lone], [lone]⟩ both _ (.second (.first .nil))

end AstView.Document
