import AstView.Bytes

/-!
# UTF-8

Text is stored as UTF-8. A byte list is read as a list of chunks: scalar values, and the
stretches of bytes that belong to none. A stretch is as long as it can be while it is still
the beginning of some scalar value, and at least one byte; only at the end of the list may
such a beginning be cut short (`Chunk.cut`). Two readings use the chunks: `decode` accepts
scalar values only and says where the first other chunk stands, and `lossy` puts U+FFFD in its
place.
-/
namespace AstView.Utf8

/-- The bytes of a scalar value, with its six-bit groups from the high end. -/
def encodeChar (char : Char) : Bytes :=
  let value := char.toNat
  if value < 0x80 then [byte value]
  else if value < 0x800 then [byte (0xC0 + value / 64), byte (0x80 + value % 64)]
  else if value < 0x10000 then
    [byte (0xE0 + value / 4096), byte (0x80 + value / 64 % 64), byte (0x80 + value % 64)]
  else
    [byte (0xF0 + value / 262144), byte (0x80 + value / 4096 % 64),
      byte (0x80 + value / 64 % 64), byte (0x80 + value % 64)]

/-- The bytes of a text are the bytes of its characters in order. -/
def encode (text : String) : Bytes := text.toList.flatMap encodeChar

/-- A stretch of a byte list. -/
inductive Chunk where
  /-- The bytes of one scalar value. -/
  | scalar (char : Char)
  /-- Bytes that begin a scalar value but go on with a byte it cannot have. -/
  | bad (length : Nat)
  /-- Bytes that begin a scalar value where the list ends. -/
  | cut (length : Nat)
  deriving Repr, DecidableEq

/-- A scalar value of which some bytes have been read. -/
structure Pending where
  /-- How many of its bytes have been read. -/
  seen : Nat
  /-- What the bytes read so far add up to. -/
  value : Nat
  /-- How many bytes it still needs, after the next one. -/
  owed : Nat
  /-- The least byte that may come next. -/
  low : UInt8
  /-- The greatest byte that may come next. -/
  high : UInt8
  deriving Repr, DecidableEq

/-- A first byte is a character by itself, begins a longer one, or belongs to none. The
ranges leave out longer spellings than needed, surrogates and what lies past U+10FFFF. -/
def start (first : UInt8) : List Chunk × Option Pending :=
  let value := first.toNat
  if value < 0x80 then ([.scalar (Char.ofNat value)], none)
  else if value < 0xC2 then ([.bad 1], none)
  else if value < 0xE0 then ([], some ⟨1, value - 0xC0, 0, 0x80, 0xBF⟩)
  else if value = 0xE0 then ([], some ⟨1, 0, 1, 0xA0, 0xBF⟩)
  else if value = 0xED then ([], some ⟨1, 0xD, 1, 0x80, 0x9F⟩)
  else if value < 0xF0 then ([], some ⟨1, value - 0xE0, 1, 0x80, 0xBF⟩)
  else if value = 0xF0 then ([], some ⟨1, 0, 2, 0x90, 0xBF⟩)
  else if value < 0xF4 then ([], some ⟨1, value - 0xF0, 2, 0x80, 0xBF⟩)
  else if value = 0xF4 then ([], some ⟨1, 4, 2, 0x80, 0x8F⟩)
  else ([.bad 1], none)

/-- A byte in range goes on with the pending scalar value; any other byte leaves a bad
chunk behind and starts anew. -/
def step : Option Pending → UInt8 → List Chunk × Option Pending
  | none, next => start next
  | some pending, next =>
    if pending.low ≤ next ∧ next ≤ pending.high then
      let value := pending.value * 64 + (next.toNat - 0x80)
      match pending.owed with
      | 0 => ([.scalar (Char.ofNat value)], none)
      | owed + 1 => ([], some ⟨pending.seen + 1, value, owed, 0x80, 0xBF⟩)
    else
      let (chunks, state) := start next
      (.bad pending.seen :: chunks, state)

/-- The chunks of a byte list that goes on after a pending scalar value, if there is one. -/
def chunksFrom : Option Pending → Bytes → List Chunk
  | none, [] => []
  | some pending, [] => [.cut pending.seen]
  | state, next :: rest =>
    let (chunks, state) := step state next
    chunks ++ chunksFrom state rest

/-- The chunks of a byte list. -/
def chunks (bytes : Bytes) : List Chunk := chunksFrom none bytes

/-- The character of a chunk that is a scalar value. -/
def Chunk.char? : Chunk → Option Char
  | .scalar char => some char
  | .bad _ => none
  | .cut _ => none

/-- Why and where a byte list is not UTF-8. -/
inductive Fault where
  /-- The bytes from an index on belong to no scalar value. -/
  | invalid (length index : Nat)
  /-- The list ends inside the scalar value that begins at an index. -/
  | incomplete (index : Nat)
  deriving Repr, DecidableEq

/-- The text of a fault gives the length of an invalid stretch and where it begins. -/
def Fault.message : Fault → String
  | .invalid length index =>
    s!"invalid utf-8 sequence of {length} bytes from index {index}"
  | .incomplete index => s!"incomplete utf-8 byte sequence from index {index}"

/-- The characters of chunks that begin at an index, if all of them are scalar values. -/
def charsFrom : Nat → List Chunk → Except Fault (List Char)
  | _, [] => .ok []
  | index, .scalar char :: rest =>
    (charsFrom (index + (encodeChar char).length) rest).map (char :: ·)
  | index, .bad length :: _ => .error (.invalid length index)
  | index, .cut _ :: _ => .error (.incomplete index)

/-- The text of a byte list made of scalar values only. -/
def decode (bytes : Bytes) : Except Fault String :=
  (charsFrom 0 (chunks bytes)).map String.ofList

/-- The text of a byte list, with U+FFFD in place of every chunk that is no scalar value. -/
def lossy (bytes : Bytes) : String :=
  String.ofList ((chunks bytes).map fun chunk => chunk.char?.getD '\uFFFD')

end AstView.Utf8
