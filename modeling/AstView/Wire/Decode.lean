import AstView.Role
import AstView.Text.Utf8
import AstView.Wire.Key
import AstView.Wire.Message

/-!
# Reading messages

A message is read field by field. The fields of a nested message are read from the same bytes
as those of the message around it: its length only fixes how many bytes must be left at its
end, and whether that came out exactly is checked afterwards (`Fault.exceeded`). A length is
checked against all the bytes that are left, not against the end of the message that holds it.

A field may come more than once and in any order. The last tag, name or slot wins; a result or
a filter that comes again is read into the one there is; calls, streams and children add up. A
field that the schema does not know is left out.
-/
namespace AstView.Wire

/-- The error of a fault met in reading a field. -/
def inField {α : Type} (field : Field) (result : Except Fault α) : Except DecodeError α :=
  match result with
  | .ok value => .ok value
  | .error fault => .error ⟨[field], fault⟩

/-- The error of a fault met between fields. -/
def between {α : Type} (result : Except Fault α) : Except DecodeError α :=
  match result with
  | .ok value => .ok value
  | .error fault => .error (.ofFault fault)

/-- Puts what was read from the front of a byte list into a message. -/
def into {α β : Type} (put : α → β) (read : Except DecodeError (α × Bytes)) :
    Except DecodeError (β × Bytes) :=
  read.map fun pair => (put pair.1, pair.2)

/-- A fault met in reading a field never becomes a value. -/
theorem inField_eq_ok_iff {α : Type} {field : Field} {result : Except Fault α} {value : α} :
    inField field result = .ok value ↔ result = .ok value := by
  cases result <;> simp [inField]

/-- Putting what was read into a message leaves what follows it alone. -/
theorem into_eq_ok_iff {α β : Type} {put : α → β} {read : Except DecodeError (α × Bytes)}
    {merged : β} {rest : Bytes} :
    into put read = .ok (merged, rest) ↔ ∃ value, read = .ok (value, rest) ∧ put value = merged := by
  cases read with
  | error => simp [into, Except.map]
  | ok pair =>
    obtain ⟨value, left⟩ := pair
    simp only [into, Except.map, Except.ok.injEq, Prod.mk.injEq]
    exact ⟨fun ⟨put, same⟩ => ⟨value, ⟨rfl, same⟩, put⟩, fun ⟨_, ⟨found, same⟩, put⟩ =>
      ⟨found ▸ put, same⟩⟩

/-- Leaving a payload out never adds bytes. -/
theorem skipped_length {α : Type} {message merged : α} {key : Key} {bytes rest : Bytes}
    (read : (between (key.skip bytes)).map (fun rest => (message, rest)) = .ok (merged, rest)) :
    rest.length ≤ bytes.length := by
  cases found : key.skip bytes with
  | error => simp [found, between, Except.map] at read
  | ok left =>
    simp only [found, between, Except.map, Except.ok.injEq, Prod.mk.injEq] at read
    exact read.2 ▸ Key.skip_length found

/-- How the fields of a message are read into what has been read of it before. -/
structure Reader (α : Type) where
  /-- Reads the payload of a field with the given key. -/
  field : α → Key → Bytes → Except DecodeError (α × Bytes)
  /-- Reading a payload never adds bytes. -/
  field_length : ∀ {message merged : α} {key : Key} {bytes rest : Bytes},
    field message key bytes = .ok (merged, rest) → rest.length ≤ bytes.length

namespace Reader

variable {α : Type}

/-- Reads fields until no more than `limit` bytes are left, and returns those. -/
def merge (reader : Reader α) (limit : Nat) (message : α) (bytes : Bytes) :
    Except DecodeError (α × Bytes) :=
  if bytes.length ≤ limit then .ok (message, bytes)
  else
    match _key : Key.decode bytes with
    | .error fault => .error (.ofFault fault)
    | .ok (key, afterKey) =>
      match _field : reader.field message key afterKey with
      | .error error => .error error
      | .ok (next, rest) => reader.merge limit next rest
termination_by bytes.length
decreasing_by exact Nat.lt_of_le_of_lt (reader.field_length _field) (Key.decode_length _key)

/-- Reading fields never adds bytes. -/
theorem merge_length (reader : Reader α) {limit : Nat} {message merged : α} {bytes rest : Bytes}
    (read : reader.merge limit message bytes = .ok (merged, rest)) :
    rest.length ≤ bytes.length := by
  fun_induction reader.merge limit message bytes with
  | case1 => cases read; exact Nat.le_refl _
  | case2 => cases read
  | case3 => cases read
  | case4 =>
    rename_i hypothesis
    exact Nat.le_trans (hypothesis read) (Nat.le_trans (reader.field_length (by assumption))
      (Nat.le_of_lt (Key.decode_length (by assumption))))

/-- Reads a message that is a field of another one into what has been read of it before. It
has to end exactly where its length says. -/
def nested (reader : Reader α) (field : Field) (message : α) (key : Key) (bytes : Bytes) :
    Except DecodeError (α × Bytes) :=
  match key.enter bytes with
  | .error fault => .error ⟨[field], fault⟩
  | .ok (limit, start) =>
    match reader.merge limit message start with
    | .error error => .error (error.within field)
    | .ok (merged, rest) =>
      if rest.length = limit then .ok (merged, rest) else .error ⟨[field], .exceeded⟩

/-- A nested message takes at least the byte of its length. -/
theorem nested_length (reader : Reader α) {field : Field} {message merged : α} {key : Key}
    {bytes rest : Bytes} (read : reader.nested field message key bytes = .ok (merged, rest)) :
    rest.length < bytes.length := by
  unfold nested at read
  split at read
  · cases read
  · split at read
    · cases read
    · split at read
      · cases read
        exact Nat.lt_of_le_of_lt (reader.merge_length (by assumption))
          (Key.enter_length (by assumption)).1
      · cases read

end Reader

namespace Value

/-- Reads the payload of any field but a child into a value. -/
def plainField (value : Value) (key : Key) (bytes : Bytes) : Except DecodeError (Value × Bytes) :=
  match key.field with
  | 1 => into (fun number => { value with tag := Int32.ofNat number })
      (inField .tag (key.readNumber bytes))
  | 2 => into (fun number => { value with slot := some (.flag (number != 0)) })
      (inField .slot (key.readNumber bytes))
  | 3 => into (fun number => { value with slot := some (.unsigned (UInt64.ofNat number)) })
      (inField .slot (key.readNumber bytes))
  | 4 => into (fun block => { value with slot := some (.raw block) })
      (inField .slot (key.readBlock bytes))
  | _ => (between (key.skip bytes)).map fun rest => (value, rest)

/-- Reading a payload never adds bytes. -/
theorem plainField_length {value merged : Value} {key : Key} {bytes rest : Bytes}
    (read : value.plainField key bytes = .ok (merged, rest)) : rest.length ≤ bytes.length := by
  unfold plainField at read
  split at read
  · obtain ⟨_, found, _⟩ := into_eq_ok_iff.1 read
    exact Nat.le_of_lt (Key.readNumber_length (inField_eq_ok_iff.1 found))
  · obtain ⟨_, found, _⟩ := into_eq_ok_iff.1 read
    exact Nat.le_of_lt (Key.readNumber_length (inField_eq_ok_iff.1 found))
  · obtain ⟨_, found, _⟩ := into_eq_ok_iff.1 read
    exact Nat.le_of_lt (Key.readNumber_length (inField_eq_ok_iff.1 found))
  · obtain ⟨_, found, _⟩ := into_eq_ok_iff.1 read
    exact Nat.le_of_lt (Key.readBlock_length (inField_eq_ok_iff.1 found))
  · exact skipped_length read

/-- Reads fields into a value until no more than `limit` bytes are left. What is left is no
longer than what was given, which the recursion into children has to know. -/
def mergeBounded (limit : Nat) (value : Value) (bytes : Bytes) :
    Except DecodeError (Value × { rest : Bytes // rest.length ≤ bytes.length }) :=
  if bytes.length ≤ limit then .ok (value, ⟨bytes, Nat.le_refl _⟩)
  else
    match _key : Key.decode bytes with
    | .error fault => .error (.ofFault fault)
    | .ok (key, afterKey) =>
      if key.field = 5 then
        match _enter : key.enter afterKey with
        | .error fault => .error ⟨[.children], fault⟩
        | .ok (inner, start) =>
          match mergeBounded inner {} start with
          | .error error => .error (error.within .children)
          | .ok (child, ⟨left, _bounded⟩) =>
            if left.length = inner then
              match mergeBounded limit { value with children := value.children ++ [child] } left with
              | .error error => .error error
              | .ok (whole, ⟨rest, shorter⟩) =>
                .ok (whole, ⟨rest, Nat.le_trans shorter (Nat.le_trans _bounded
                  (Nat.le_trans (Nat.le_of_lt (Key.enter_length _enter).1)
                    (Nat.le_of_lt (Key.decode_length _key))))⟩)
            else .error ⟨[.children], .exceeded⟩
      else
        match _plain : value.plainField key afterKey with
        | .error error => .error error
        | .ok (next, left) =>
          match mergeBounded limit next left with
          | .error error => .error error
          | .ok (whole, ⟨rest, shorter⟩) =>
            .ok (whole, ⟨rest, Nat.le_trans shorter (Nat.le_trans (plainField_length _plain)
              (Nat.le_of_lt (Key.decode_length _key)))⟩)
termination_by bytes.length
decreasing_by
  · exact Nat.lt_trans (Key.enter_length _enter).1 (Key.decode_length _key)
  · exact Nat.lt_of_le_of_lt _bounded
      (Nat.lt_trans (Key.enter_length _enter).1 (Key.decode_length _key))
  · exact Nat.lt_of_le_of_lt (plainField_length _plain) (Key.decode_length _key)

/-- Reads fields into a value until no more than `limit` bytes are left, and returns those. -/
def merge (limit : Nat) (value : Value) (bytes : Bytes) : Except DecodeError (Value × Bytes) :=
  (mergeBounded limit value bytes).map fun (merged, rest) => (merged, rest.val)

/-- Reads a child, from its length to its end. -/
def readChild (key : Key) (bytes : Bytes) : Except DecodeError (Value × Bytes) :=
  match key.enter bytes with
  | .error fault => .error ⟨[.children], fault⟩
  | .ok (limit, start) =>
    match merge limit {} start with
    | .error error => .error (error.within .children)
    | .ok (child, rest) =>
      if rest.length = limit then .ok (child, rest) else .error ⟨[.children], .exceeded⟩

/-- Reads the payload of any field into a value. -/
def field (value : Value) (key : Key) (bytes : Bytes) : Except DecodeError (Value × Bytes) :=
  if key.field = 5 then
    into (fun child => { value with children := value.children ++ [child] })
      (readChild key bytes)
  else value.plainField key bytes

/-- Reading fields never adds bytes. -/
theorem merge_length {limit : Nat} {value merged : Value} {bytes rest : Bytes}
    (read : merge limit value bytes = .ok (merged, rest)) : rest.length ≤ bytes.length := by
  unfold merge at read
  cases found : mergeBounded limit value bytes with
  | error => simp [found, Except.map] at read
  | ok pair =>
    simp only [found, Except.map, Except.ok.injEq, Prod.mk.injEq] at read
    exact read.2 ▸ pair.2.property

/-- A child takes at least the byte of its length. -/
theorem readChild_length {child : Value} {key : Key} {bytes rest : Bytes}
    (read : readChild key bytes = .ok (child, rest)) : rest.length < bytes.length := by
  unfold readChild at read
  split at read
  · cases read
  · split at read
    · cases read
    · split at read
      · cases read
        exact Nat.lt_of_le_of_lt (merge_length (by assumption))
          (Key.enter_length (by assumption)).1
      · cases read

/-- Reading a payload never adds bytes. -/
theorem field_length {value merged : Value} {key : Key} {bytes rest : Bytes}
    (read : value.field key bytes = .ok (merged, rest)) : rest.length ≤ bytes.length := by
  unfold field at read
  split at read
  · obtain ⟨_, found, _⟩ := into_eq_ok_iff.1 read
    exact Nat.le_of_lt (readChild_length found)
  · exact plainField_length read

/-- Fields are read one by one: a key, the payload of its field, and then the others. -/
theorem merge_eq (limit : Nat) (value : Value) (bytes : Bytes) :
    merge limit value bytes =
      if bytes.length ≤ limit then .ok (value, bytes)
      else
        match Key.decode bytes with
        | .error fault => .error (.ofFault fault)
        | .ok (key, afterKey) =>
          match field value key afterKey with
          | .error error => .error error
          | .ok (next, rest) => merge limit next rest := by
  rw [merge, mergeBounded]
  split
  · rfl
  · split
    · rename_i fault decoded
      simp [decoded, Except.map]
    · rename_i key afterKey decoded
      simp only [decoded]
      split
      · rename_i isChild
        simp only [field, isChild, if_true, readChild]
        split
        · rename_i fault entered
          simp [entered, Except.map, into]
        · rename_i inner start entered
          simp only [entered, merge]
          cases mergeBounded inner {} start with
          | error => simp [Except.map, into]
          | ok pair =>
            obtain ⟨child, left, bounded⟩ := pair
            by_cases ends : left.length = inner
            · simp only [Except.map, ends, if_true, into]
              cases mergeBounded limit { value with children := value.children ++ [child] } left
                <;> rfl
            · simp [ends, into, Except.map]
      · rename_i isChild
        simp only [field, isChild, if_false]
        split
        · rename_i error plain
          simp [plain, Except.map]
        · rename_i next left plain
          simp only [plain, merge]
          cases mergeBounded limit next left <;> rfl

/-- How the fields of a value are read. -/
def reader : Reader Value := ⟨field, field_length⟩

/-- A value is read in the same way as any message. -/
theorem merge_eq_reader (limit : Nat) (value : Value) (bytes : Bytes) :
    merge limit value bytes = reader.merge limit value bytes := by
  fun_induction reader.merge limit value bytes with
  | case1 _ _ done => rw [merge_eq, if_pos done]
  | case2 _ _ more _ decoded => rw [merge_eq, if_neg more, decoded]
  | case3 _ _ more _ _ decoded _ read =>
    rw [merge_eq, if_neg more, decoded]
    simp only [reader] at read
    simp only [read]
  | case4 _ _ more _ _ decoded _ _ read hypothesis =>
    rw [merge_eq, if_neg more, decoded]
    simp only [reader] at read
    simp only [read]
    exact hypothesis

/-- A child is read in the same way as any nested message. -/
theorem readChild_eq_nested (key : Key) (bytes : Bytes) :
    readChild key bytes = reader.nested .children {} key bytes := by
  unfold readChild Reader.nested
  cases key.enter bytes with
  | error => rfl
  | ok entered =>
    simp only [merge_eq_reader]
    cases reader.merge entered.1 {} entered.2 <;> rfl

end Value

namespace Entry

/-- The field of the schema that holds the name of an entry. -/
def nameField : Role → Field
  | .call => .callName
  | .stream => .streamName

/-- The field of the schema that holds the value of an entry. -/
def valueField : Role → Field
  | .call => .callResult
  | .stream => .streamFilter

/-- Reads the payload of a name, which has to be UTF-8. -/
def readName (key : Key) (bytes : Bytes) : Except Fault (String × Bytes) :=
  match key.readBlock bytes with
  | .error fault => .error fault
  | .ok (block, rest) =>
    match Utf8.decode block with
    | .error _ => .error .text
    | .ok name => .ok (name, rest)

/-- Reads the payload of any field into an entry. -/
def field (role : Role) (entry : Entry) (key : Key) (bytes : Bytes) :
    Except DecodeError (Entry × Bytes) :=
  match key.field with
  | 1 => into (fun name => { entry with name })
      (inField (nameField role) (readName key bytes))
  | 2 => into (fun value => { entry with value := some value })
      (Value.reader.nested (valueField role) (entry.value.getD {}) key bytes)
  | _ => (between (key.skip bytes)).map fun rest => (entry, rest)

/-- A name takes at least the byte of its length. -/
theorem readName_length {name : String} {key : Key} {bytes rest : Bytes}
    (read : readName key bytes = .ok (name, rest)) : rest.length < bytes.length := by
  unfold readName at read
  split at read
  · cases read
  · split at read
    · cases read
    · cases read
      exact Key.readBlock_length (by assumption)

/-- Reading a payload never adds bytes. -/
theorem field_length {role : Role} {entry merged : Entry} {key : Key} {bytes rest : Bytes}
    (read : field role entry key bytes = .ok (merged, rest)) : rest.length ≤ bytes.length := by
  unfold field at read
  split at read
  · obtain ⟨_, found, _⟩ := into_eq_ok_iff.1 read
    exact Nat.le_of_lt (readName_length (inField_eq_ok_iff.1 found))
  · obtain ⟨_, found, _⟩ := into_eq_ok_iff.1 read
    exact Nat.le_of_lt (Value.reader.nested_length found)
  · exact skipped_length read

/-- How the fields of a call or a stream are read. -/
def reader (role : Role) : Reader Entry := ⟨field role, field_length⟩

end Entry

namespace Root

/-- Reads the payload of any field into a root. -/
def field (root : Root) (key : Key) (bytes : Bytes) : Except DecodeError (Root × Bytes) :=
  match key.field with
  | 1 => into (fun call => { root with calls := root.calls ++ [call] })
      ((Entry.reader .call).nested .calls {} key bytes)
  | 2 => into (fun stream => { root with streams := root.streams ++ [stream] })
      ((Entry.reader .stream).nested .streams {} key bytes)
  | _ => (between (key.skip bytes)).map fun rest => (root, rest)

/-- Reading a payload never adds bytes. -/
theorem field_length {root merged : Root} {key : Key} {bytes rest : Bytes}
    (read : root.field key bytes = .ok (merged, rest)) : rest.length ≤ bytes.length := by
  unfold field at read
  split at read
  · obtain ⟨_, found, _⟩ := into_eq_ok_iff.1 read
    exact Nat.le_of_lt ((Entry.reader .call).nested_length found)
  · obtain ⟨_, found, _⟩ := into_eq_ok_iff.1 read
    exact Nat.le_of_lt ((Entry.reader .stream).nested_length found)
  · exact skipped_length read

/-- How the fields of a root are read. -/
def reader : Reader Root := ⟨field, field_length⟩

/-- Reads a whole byte list as a root. -/
def decode (bytes : Bytes) : Except DecodeError Root :=
  (reader.merge 0 {} bytes).map (·.1)

end Root

end AstView.Wire
