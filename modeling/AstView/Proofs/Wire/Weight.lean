import AstView.Proofs.Document
import AstView.Proofs.Wire.Merging

/-!
# How much a file can hold

Nothing that is read is larger than the bytes it was read from. A message weighs the bytes of its
names and its slots, and two for every message in it, which are the least that a key and a length
take. Reading a field never makes a message heavier by more than the bytes that the field takes
(`Reader.Pays`), whether it adds something, takes the place of something or is left out, and so
reading fields in a row does not either. A document weighs no more than its root: each value of it
is paid for by the field of that value or, where the value is missing, by the field of the entry.

So no count of values of a document that was read can overflow, and no tree is deeper than half the
bytes.
-/
namespace AstView.Wire

/-! ## Weights -/

/-- A slot weighs its bytes. -/
def slotWeight : Option Slot → Nat
  | some (.raw block) => block.length
  | _ => 0

mutual

/-- A value weighs its slot and its children. -/
def Value.weight : Value → Nat
  | ⟨_, slot, children⟩ => slotWeight slot + childrenWeight children

/-- A child weighs two more than it does by itself. -/
def childrenWeight : List Value → Nat
  | [] => 0
  | child :: rest => 2 + child.weight + childrenWeight rest

end

/-- An entry weighs its name and its value. -/
def Entry.weight (entry : Entry) : Nat :=
  entry.name.utf8ByteSize + (entry.value.getD {}).weight

/-- An entry weighs two more among others than it does by itself. -/
def entriesWeight : List Entry → Nat
  | [] => 0
  | entry :: rest => 2 + entry.weight + entriesWeight rest

/-- A root weighs its entries. -/
def Root.weight (root : Root) : Nat := entriesWeight root.calls + entriesWeight root.streams

theorem childrenWeight_append (first second : List Value) :
    childrenWeight (first ++ second) = childrenWeight first + childrenWeight second := by
  induction first with
  | nil => exact (Nat.zero_add _).symm
  | cons child rest ih =>
    rw [List.cons_append, childrenWeight, childrenWeight, ih]
    omega

theorem entriesWeight_append (first second : List Entry) :
    entriesWeight (first ++ second) = entriesWeight first + entriesWeight second := by
  induction first with
  | nil => exact (Nat.zero_add _).symm
  | cons entry rest ih =>
    rw [List.cons_append, entriesWeight, entriesWeight, ih]
    omega

/-! ## Reading adds no weight -/

namespace Reader

variable {α : Type}

/-- A field makes a message heavier by no more than its payload and the byte of its key, as far as
the payload is read from fewer bytes than a bound. -/
def Pays (reader : Reader α) (weight : α → Nat) (bound : Nat) : Prop :=
  ∀ message merged key (bytes rest : Bytes), bytes.length < bound →
    reader.field message key bytes = .ok (merged, rest) →
      weight merged + rest.length ≤ weight message + bytes.length + 1

variable {reader : Reader α} {weight : α → Nat} {bound : Nat} (pays : reader.Pays weight bound)
include pays

/-- Fields make a message heavier by no more than the bytes that they take. -/
theorem merge_weight {limit : Nat} {message merged : α} {bytes rest : Bytes}
    (short : bytes.length ≤ bound) (read : reader.merge limit message bytes = .ok (merged, rest)) :
    weight merged + rest.length ≤ weight message + bytes.length := by
  fun_induction reader.merge limit message bytes with
  | case1 =>
    cases read
    exact Nat.le_refl _
  | case2 => cases read
  | case3 => cases read
  | case4 message bytes more key afterKey decoded next left found ih =>
    have shorter := Key.decode_length decoded
    have notLonger := reader.field_length found
    have own := pays _ _ _ _ _ (by omega) found
    have others := ih (by omega) read
    omega

/-- A nested message takes a byte more than what it is heavier by. -/
theorem nested_weight {field : Field} {message merged : α} {key : Key} {bytes rest : Bytes}
    (short : bytes.length ≤ bound)
    (read : reader.nested field message key bytes = .ok (merged, rest)) :
    weight merged + rest.length + 1 ≤ weight message + bytes.length := by
  unfold nested at read
  split at read
  · cases read
  · rename_i limit start entered
    have shorter := (Key.enter_length entered).1
    split at read
    · cases read
    · rename_i found left merges
      split at read
      · cases read
        have inside := merge_weight pays (by omega) merges
        omega
      · cases read

end Reader

namespace Value

/-- A field that is no child makes a value heavier by no more than its payload. -/
theorem plainField_weight {value merged : Value} {key : Key} {bytes rest : Bytes}
    (read : value.plainField key bytes = .ok (merged, rest)) :
    merged.weight + rest.length ≤ value.weight + bytes.length := by
  have notLonger := plainField_length read
  obtain ⟨tag, slot, children⟩ := value
  unfold plainField at read
  split at read
  · obtain ⟨number, -, rfl⟩ := into_eq_ok_iff.1 read
    simp only [weight]
    omega
  · obtain ⟨number, -, rfl⟩ := into_eq_ok_iff.1 read
    simp only [weight, slotWeight]
    omega
  · obtain ⟨number, -, rfl⟩ := into_eq_ok_iff.1 read
    simp only [weight, slotWeight]
    omega
  · obtain ⟨block, found, rfl⟩ := into_eq_ok_iff.1 read
    have taken := Key.readBlock_lengths (inField_eq_ok_iff.1 found)
    simp only [weight, slotWeight]
    omega
  · obtain ⟨-, rfl⟩ := skipped_eq_ok_iff.1 read
    exact Nat.add_le_add_left notLonger _

/-- The fields of a value pay for what they add to it, at every depth. -/
theorem reader_pays (bound : Nat) : reader.Pays weight bound := by
  induction bound with
  | zero => exact fun _ _ _ _ _ short => absurd short (Nat.not_lt_zero _)
  | succ bound ih =>
    intro value merged key bytes rest short read
    change value.field key bytes = .ok (merged, rest) at read
    unfold field at read
    split at read
    · rw [readChild_eq_nested] at read
      obtain ⟨child, found, rfl⟩ := into_eq_ok_iff.1 read
      have inside := Reader.nested_weight ih (by omega) found
      obtain ⟨tag, slot, children⟩ := value
      have none : ({} : Value).weight = 0 := rfl
      simp only [weight, childrenWeight_append, childrenWeight]
      omega
    · have plain := plainField_weight read
      omega

end Value

/-- A name that is read is paid for by its bytes. -/
theorem Entry.readName_weight {name : String} {key : Key} {bytes rest : Bytes}
    (read : readName key bytes = .ok (name, rest)) :
    name.utf8ByteSize + rest.length ≤ bytes.length := by
  unfold readName at read
  split at read
  · cases read
  · rename_i block left found
    split at read
    · cases read
    · rename_i text decoded
      cases read
      have taken := Key.readBlock_lengths found
      rw [Utf8.decode_eq_ok_iff.1 decoded, Utf8.length_encode] at taken
      omega

/-- The fields of an entry pay for what they add to it. -/
theorem Entry.reader_pays (role : Role) (bound : Nat) : (reader role).Pays weight bound := by
  intro entry merged key bytes rest short read
  change Entry.field role entry key bytes = .ok (merged, rest) at read
  have notLonger := field_length read
  unfold field at read
  split at read
  · obtain ⟨other, found, rfl⟩ := into_eq_ok_iff.1 read
    have taken := readName_weight (inField_eq_ok_iff.1 found)
    simp only [weight]
    omega
  · obtain ⟨result, found, rfl⟩ := into_eq_ok_iff.1 read
    have inside := Reader.nested_weight (Value.reader_pays bytes.length) (Nat.le_refl _) found
    simp only [weight, Option.getD_some]
    omega
  · obtain ⟨-, rfl⟩ := skipped_eq_ok_iff.1 read
    omega

/-- The fields of a root pay for what they add to it. -/
theorem Root.reader_pays (bound : Nat) : reader.Pays weight bound := by
  intro root merged key bytes rest short read
  change root.field key bytes = .ok (merged, rest) at read
  have notLonger := field_length read
  have none : ({} : Entry).weight = 0 := by decide
  have nested (role : Role) {field : Field} {entry : Entry}
      (found : (Entry.reader role).nested field {} key bytes = .ok (entry, rest)) :
      entry.weight + rest.length + 1 ≤ bytes.length := by
    have inside := Reader.nested_weight (Entry.reader_pays role bytes.length) (Nat.le_refl _) found
    omega
  unfold field at read
  split at read
  · obtain ⟨entry, found, rfl⟩ := into_eq_ok_iff.1 read
    have inside := nested .call found
    simp only [weight, entriesWeight_append, entriesWeight]
    omega
  · obtain ⟨entry, found, rfl⟩ := into_eq_ok_iff.1 read
    have inside := nested .stream found
    simp only [weight, entriesWeight_append, entriesWeight]
    omega
  · obtain ⟨-, rfl⟩ := skipped_eq_ok_iff.1 read
    omega

/-- A root weighs no more than the bytes that it is read from. -/
theorem Root.weight_le {bytes : Bytes} {root : Root} (read : decode bytes = .ok root) :
    root.weight ≤ bytes.length := by
  have none : ({} : Root).weight = 0 := rfl
  have all := Reader.merge_weight (Root.reader_pays bytes.length) (Nat.le_refl _)
    (decode_eq_ok_iff.1 read)
  rw [none, List.length_nil] at all
  omega

end AstView.Wire

namespace AstView

open Wire

/-! ## Sizes of documents -/

/-- The bytes of a payload that is bytes. -/
def Kind.payloadSize : Kind → Nat
  | error text => text.length
  | bytes value => value.length
  | _ => 0

/-- The bytes of the payloads of some kinds. -/
def Kind.payloadSizes (kinds : List Kind) : Nat := (kinds.map payloadSize).sum

namespace Tree

mutual

/-- How many values stand on the longest way down a tree, the root included. -/
def depth : Tree → Nat
  | ⟨_, children⟩ => 1 + forestDepth children

/-- The depth of the deepest of some trees. -/
def forestDepth : List Tree → Nat
  | [] => 0
  | tree :: rest => max (depth tree) (forestDepth rest)

end

/-- Trees are no deeper than they have values. -/
theorem forestDepth_le (forest : List Tree) : forestDepth forest ≤ forestCount forest := by
  induction forest using forest_induction with
  | nil => exact Nat.le_refl 0
  | cons kind children rest below behind =>
    rw [forestDepth, depth, forestCount, count]
    omega

/-- A tree is no deeper than it has values. -/
theorem depth_le (tree : Tree) : tree.depth ≤ tree.count := by
  have all := forestDepth_le [tree]
  simpa only [forestDepth, forestCount, Nat.max_zero, Nat.add_zero] using all

end Tree

namespace Document

/-- The bytes of the names of the entries. -/
def nameSize (document : Document) : Nat :=
  ((document.calls ++ document.streams).map fun entry => entry.name.utf8ByteSize).sum

/-- The bytes of the payloads that are bytes. -/
def payloadSize (document : Document) : Nat :=
  ((document.calls ++ document.streams).map fun entry => Kind.payloadSizes entry.tree.kinds).sum

end Document

/-! ## Counting in words -/

/-- Adds two numbers if words hold the sum, which hold the numbers below a limit. -/
def addWords (limit first second : Nat) : Option Nat :=
  if first + second < limit then some (first + second) else none

theorem addWords_of_lt {limit first second : Nat} (fits : first + second < limit) :
    addWords limit first second = some (first + second) := if_pos fits

namespace Tree

mutual

/-- How many values a tree has, counted in words: one more than its children have together. -/
def wordCount (limit : Nat) : Tree → Option Nat
  | ⟨_, children⟩ => (forestWordCount limit 0 children).bind (addWords limit 1)

/-- A sum and how many values some trees have, added one after the other in words. -/
def forestWordCount (limit sum : Nat) : List Tree → Option Nat
  | [] => some sum
  | tree :: rest => (wordCount limit tree).bind fun own =>
    (addWords limit sum own).bind fun next => forestWordCount limit next rest

end

/-- No addition of the values of some trees leaves the words if their number does not. -/
theorem forestWordCount_eq {limit : Nat} (forest : List Tree) (sum : Nat)
    (fits : sum + forestCount forest < limit) :
    forestWordCount limit sum forest = some (sum + forestCount forest) := by
  induction forest using forest_induction generalizing sum with
  | nil => rfl
  | cons kind children rest below behind =>
    rw [forestCount, count] at fits
    rw [forestWordCount, wordCount, below 0 (by omega), Option.bind_some,
      addWords_of_lt (by omega), Option.bind_some, addWords_of_lt (by omega), Option.bind_some,
      behind _ (by omega), forestCount, count, Nat.zero_add, Nat.add_assoc]

/-- No addition of the values of a tree leaves the words if their number does not. -/
theorem wordCount_eq {limit : Nat} (tree : Tree) (fits : tree.count < limit) :
    tree.wordCount limit = some tree.count := by
  obtain ⟨kind, children⟩ := tree
  rw [count] at fits
  rw [wordCount, forestWordCount_eq children 0 (by omega), Option.bind_some,
    addWords_of_lt (by omega), count, Nat.zero_add]

end Tree

namespace Document

/-- A sum and how many values the trees of some entries have, added one after the other in words. -/
def entriesWordCount (limit sum : Nat) : List Entry → Option Nat
  | [] => some sum
  | entry :: rest => (entry.tree.wordCount limit).bind fun own =>
    (addWords limit sum own).bind fun next => entriesWordCount limit next rest

/-- How many values the trees of a document have, counted in words: those of the calls, those of the
streams, and then both. -/
def valueWordCount (limit : Nat) (document : Document) : Option Nat :=
  (entriesWordCount limit 0 document.calls).bind fun calls =>
    (entriesWordCount limit 0 document.streams).bind fun streams => addWords limit calls streams

theorem entriesWordCount_eq {limit : Nat} (entries : List Entry) (sum : Nat)
    (fits : sum + entriesCount entries < limit) :
    entriesWordCount limit sum entries = some (sum + entriesCount entries) := by
  induction entries generalizing sum with
  | nil => rfl
  | cons entry rest ih =>
    rw [entriesCount] at fits
    rw [entriesWordCount, entry.tree.wordCount_eq (by omega), Option.bind_some,
      addWords_of_lt (by omega), Option.bind_some, ih _ (by omega), entriesCount, Nat.add_assoc]

/-- No addition of the values of a document leaves the words if their number does not. -/
theorem valueWordCount_eq {limit : Nat} (document : Document) (fits : document.valueCount < limit) :
    document.valueWordCount limit = some document.valueCount := by
  rw [valueCount] at fits
  rw [valueWordCount, entriesWordCount_eq _ 0 (by omega), Option.bind_some,
    entriesWordCount_eq _ 0 (by omega), Option.bind_some, addWords_of_lt (by omega), valueCount,
    Nat.zero_add, Nat.zero_add]

end Document

/-! ## Documents weigh no more than roots -/

/-- A kind has no more bytes than the slot that it is taken from. -/
theorem Kind.payloadSize_kindOf (tag : Int32) (slot : Option Slot) :
    (kindOf tag slot).payloadSize ≤ slotWeight slot := by
  have bytes : (slotBytes slot).length ≤ slotWeight slot := by
    unfold slotBytes
    split
    · exact Nat.le_refl _
    · exact Nat.zero_le _
  unfold kindOf
  split
  all_goals first | exact bytes | exact Nat.zero_le _

namespace Tree

mutual

/-- The values and payloads of a tree are paid for by its value and the field that holds it. -/
theorem weight_ofWire (value : Wire.Value) :
    2 * (ofWire value).count + Kind.payloadSizes (ofWire value).kinds ≤ 2 + value.weight := by
  match value with
  | ⟨tag, slot, children⟩ =>
    have own := Kind.payloadSize_kindOf tag slot
    have below := forestWeight_ofWire children
    simp only [ofWire, count, kinds, Kind.payloadSizes, List.map_cons, List.sum_cons,
      Wire.Value.weight] at below ⊢
    omega

/-- The values and payloads of trees are paid for by the fields that hold their values. -/
theorem forestWeight_ofWire (values : List Wire.Value) :
    2 * forestCount (forestOfWire values) + Kind.payloadSizes (forestKinds (forestOfWire values)) ≤
      childrenWeight values := by
  match values with
  | [] => exact Nat.le_refl 0
  | value :: rest =>
    have own := weight_ofWire value
    have behind := forestWeight_ofWire rest
    simp only [forestOfWire, forestCount, forestKinds, Kind.payloadSizes, List.map_append,
      List.sum_append, childrenWeight] at own behind ⊢
    omega

end

end Tree

namespace Document

/-- Entries are paid for by the fields that hold them, also those without a value. -/
theorem entriesWeight_ofWire (entries : List Wire.Entry) :
    2 * entriesCount (entries.map Entry.ofWire) +
        ((entries.map Entry.ofWire).map fun entry => entry.name.utf8ByteSize).sum +
        ((entries.map Entry.ofWire).map fun entry => Kind.payloadSizes entry.tree.kinds).sum ≤
      entriesWeight entries := by
  induction entries with
  | nil => exact Nat.le_refl 0
  | cons entry rest ih =>
    have own : 2 * (Entry.ofWire entry).tree.count +
        Kind.payloadSizes (Entry.ofWire entry).tree.kinds ≤ 2 + (entry.value.getD {}).weight := by
      obtain ⟨name, value⟩ := entry
      cases value with
      | none => exact Nat.le_refl 2
      | some value => exact Tree.weight_ofWire value
    have name : (Entry.ofWire entry).name = entry.name := rfl
    simp only [List.map_cons, List.sum_cons, entriesCount, entriesWeight, Wire.Entry.weight, name]
      at ih ⊢
    omega

/-- A document weighs no more than its root. -/
theorem weight_ofWire (root : Root) :
    2 * (ofWire root).valueCount + (ofWire root).nameSize + (ofWire root).payloadSize ≤
      root.weight := by
  have calls := entriesWeight_ofWire root.calls
  have streams := entriesWeight_ofWire root.streams
  simp only [ofWire, valueCount, nameSize, payloadSize, List.map_append, List.sum_append,
    Root.weight] at calls streams ⊢
  omega

/-- The tree of an entry has no more values than all trees of a document. -/
theorem count_le_valueCount {document : Document} {entry : Entry}
    (member : entry ∈ document.calls ++ document.streams) :
    entry.tree.count ≤ document.valueCount := by
  have among {entries : List Entry} (inside : entry ∈ entries) :
      entry.tree.count ≤ entriesCount entries := by
    induction inside with
    | head rest => exact Nat.le_add_right _ _
    | tail other _ ih => exact Nat.le_trans ih (Nat.le_add_left _ _)
  rw [valueCount]
  obtain call | stream := List.mem_append.1 member
  · exact Nat.le_trans (among call) (Nat.le_add_right _ _)
  · exact Nat.le_trans (among stream) (Nat.le_add_left _ _)

/-- A document that is loaded is no larger than its file: twice the number of its values, the bytes
of its names and the bytes of its payloads are together no more than the bytes of the file. So
wherever words can count the bytes, no addition in counting the values of the document or of one of
its trees leaves the words, and no tree is deeper than half the bytes. -/
theorem load_no_larger {bytes : Bytes} {document : Document} (read : load bytes = .ok document) :
    2 * document.valueCount + document.nameSize + document.payloadSize ≤ bytes.length ∧
    (∀ limit, bytes.length < limit →
      document.valueWordCount limit = some document.valueCount) ∧
    ∀ entry ∈ document.calls ++ document.streams, 2 * entry.tree.depth ≤ bytes.length ∧
      ∀ limit, bytes.length < limit → entry.tree.wordCount limit = some entry.tree.count := by
  obtain ⟨root, decoded, rfl⟩ := load_eq_ok_iff.1 read
  have light := Nat.le_trans (weight_ofWire root) (Root.weight_le decoded)
  refine ⟨light, fun limit held => valueWordCount_eq _ (by omega), fun entry member => ?_⟩
  have part := count_le_valueCount member
  have deep := entry.tree.depth_le
  exact ⟨by omega, fun limit held => entry.tree.wordCount_eq (by omega)⟩

/-- A result with two slots and a child. -/
def denseResult : Bytes :=
  encodeTag 4 ++ encodeSlot (some (.flag true)) ++
      (encodeTag 0 ++ encodeSlot (some (.raw [0xFF]))) ++
    blockField 5 (encodeTag 0 ++ encodeSlot none)

/-- A call with two names and that result, and a stream without a value. -/
def dense : Bytes :=
  blockField 1 (encodeName "a" ++ encodeName "é" ++ blockField 2 denseResult) ++
    blockField 2 (encodeName "")

theorem load_no_larger_dense :
    load dense = .ok ⟨[⟨"é", ⟨.error [0xFF], [.nil]⟩⟩], [⟨"", .nil⟩]⟩ ∧
      2 * 3 + 2 + 1 ≤ dense.length ∧
      ∀ limit, dense.length < limit →
        valueWordCount limit ⟨[⟨"é", ⟨.error [0xFF], [.nil]⟩⟩], [⟨"", .nil⟩]⟩ = some 3 := by
  have result : Value.Pieced _ denseResult :=
    .append (.append (.fields 4 _) (.fields 0 _)) (.child (.fields 0 none))
  have call := Entry.Pieced.append (.append (.name "a") (.name "é")) (.value result)
  have pieced : Root.Pieced _ dense := .append (.entry .call call) (.entry .stream (.name ""))
  have read : load dense = .ok ⟨[⟨"é", ⟨.error [0xFF], [.nil]⟩⟩], [⟨"", .nil⟩]⟩ :=
    load_eq_ok_iff.2 ⟨_, pieced.decode (by decide +kernel), rfl⟩
  obtain ⟨light, counted, -⟩ := load_no_larger read
  exact ⟨read, light, counted⟩

end Document

end AstView
