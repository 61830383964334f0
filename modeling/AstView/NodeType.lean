/-!
# Types of values

The language of the documents has a fixed table of value types. A type is a number on the wire
and an upper-case name in the views; both determine it. The numbers have gaps, which other
versions of the language may fill, so a number need not be in the table.
-/
namespace AstView

/-- The value types that the language defines. The first seven are the empty value and the six
types with a payload; the others are operations, records of the ledger and readers of their
fields, which have children only. -/
inductive NodeType where
  | nil | uint64 | bool | bytes | error | arg | param | apply | reduce | list | queryCells | map
  | filter | getHeader | hash | serializeToCore | serializeToJson | not | and | or | equal | less
  | len | slice | index | cond | add | subtract | multiply | divide | mod | transaction | header
  | cell | script | cellInput | outPoint | cellDep | getCapacity | getData | getLock | getType
  | getDataHash | getOutPoint | getCodeHash | getHashType | getArgs | getCellDeps | getHeaderDeps
  | getInputs | getOutputs | getWitnesses | getCompactTarget | getTimestamp | getNumber
  | getEpoch | getParentHash | getTransactionsRoot | getProposalsHash | getUnclesHash | getDao
  | getNonce | getDepType | getTxHash | getIndex | getSince | getPreviousOutput
  deriving Repr, DecidableEq, Inhabited

namespace NodeType

/-- Every type of the table, by number. -/
def all : List NodeType := [
  .nil, .uint64, .bool, .bytes, .error, .arg, .param, .apply, .reduce, .list, .queryCells, .map,
  .filter, .getHeader, .hash, .serializeToCore, .serializeToJson, .not, .and, .or, .equal, .less,
  .len, .slice, .index, .cond, .add, .subtract, .multiply, .divide, .mod, .transaction, .header,
  .cell, .script, .cellInput, .outPoint, .cellDep, .getCapacity, .getData, .getLock, .getType,
  .getDataHash, .getOutPoint, .getCodeHash, .getHashType, .getArgs, .getCellDeps, .getHeaderDeps,
  .getInputs, .getOutputs, .getWitnesses, .getCompactTarget, .getTimestamp, .getNumber,
  .getEpoch, .getParentHash, .getTransactionsRoot, .getProposalsHash, .getUnclesHash, .getDao,
  .getNonce, .getDepType, .getTxHash, .getIndex, .getSince, .getPreviousOutput]

/-- The number of a type on the wire. -/
def code : NodeType → Int32
  | .nil => 0
  | .uint64 => 1
  | .bool => 2
  | .bytes => 3
  | .error => 4
  | .arg => 16
  | .param => 17
  | .apply => 18
  | .reduce => 19
  | .list => 20
  | .queryCells => 21
  | .map => 22
  | .filter => 23
  | .getHeader => 24
  | .hash => 25
  | .serializeToCore => 26
  | .serializeToJson => 27
  | .not => 28
  | .and => 29
  | .or => 30
  | .equal => 31
  | .less => 32
  | .len => 33
  | .slice => 34
  | .index => 35
  | .cond => 36
  | .add => 37
  | .subtract => 38
  | .multiply => 39
  | .divide => 40
  | .mod => 41
  | .transaction => 48
  | .header => 49
  | .cell => 50
  | .script => 51
  | .cellInput => 52
  | .outPoint => 53
  | .cellDep => 54
  | .getCapacity => 64
  | .getData => 65
  | .getLock => 66
  | .getType => 67
  | .getDataHash => 68
  | .getOutPoint => 69
  | .getCodeHash => 70
  | .getHashType => 71
  | .getArgs => 72
  | .getCellDeps => 73
  | .getHeaderDeps => 74
  | .getInputs => 75
  | .getOutputs => 76
  | .getWitnesses => 77
  | .getCompactTarget => 78
  | .getTimestamp => 79
  | .getNumber => 80
  | .getEpoch => 81
  | .getParentHash => 82
  | .getTransactionsRoot => 83
  | .getProposalsHash => 84
  | .getUnclesHash => 85
  | .getDao => 86
  | .getNonce => 87
  | .getDepType => 88
  | .getTxHash => 89
  | .getIndex => 90
  | .getSince => 91
  | .getPreviousOutput => 92

/-- The name of a type in the views. -/
def name : NodeType → String
  | .nil => "NIL"
  | .uint64 => "UINT64"
  | .bool => "BOOL"
  | .bytes => "BYTES"
  | .error => "ERROR"
  | .arg => "ARG"
  | .param => "PARAM"
  | .apply => "APPLY"
  | .reduce => "REDUCE"
  | .list => "LIST"
  | .queryCells => "QUERY_CELLS"
  | .map => "MAP"
  | .filter => "FILTER"
  | .getHeader => "GET_HEADER"
  | .hash => "HASH"
  | .serializeToCore => "SERIALIZE_TO_CORE"
  | .serializeToJson => "SERIALIZE_TO_JSON"
  | .not => "NOT"
  | .and => "AND"
  | .or => "OR"
  | .equal => "EQUAL"
  | .less => "LESS"
  | .len => "LEN"
  | .slice => "SLICE"
  | .index => "INDEX"
  | .cond => "COND"
  | .add => "ADD"
  | .subtract => "SUBTRACT"
  | .multiply => "MULTIPLY"
  | .divide => "DIVIDE"
  | .mod => "MOD"
  | .transaction => "TRANSACTION"
  | .header => "HEADER"
  | .cell => "CELL"
  | .script => "SCRIPT"
  | .cellInput => "CELL_INPUT"
  | .outPoint => "OUT_POINT"
  | .cellDep => "CELL_DEP"
  | .getCapacity => "GET_CAPACITY"
  | .getData => "GET_DATA"
  | .getLock => "GET_LOCK"
  | .getType => "GET_TYPE"
  | .getDataHash => "GET_DATA_HASH"
  | .getOutPoint => "GET_OUT_POINT"
  | .getCodeHash => "GET_CODE_HASH"
  | .getHashType => "GET_HASH_TYPE"
  | .getArgs => "GET_ARGS"
  | .getCellDeps => "GET_CELL_DEPS"
  | .getHeaderDeps => "GET_HEADER_DEPS"
  | .getInputs => "GET_INPUTS"
  | .getOutputs => "GET_OUTPUTS"
  | .getWitnesses => "GET_WITNESSES"
  | .getCompactTarget => "GET_COMPACT_TARGET"
  | .getTimestamp => "GET_TIMESTAMP"
  | .getNumber => "GET_NUMBER"
  | .getEpoch => "GET_EPOCH"
  | .getParentHash => "GET_PARENT_HASH"
  | .getTransactionsRoot => "GET_TRANSACTIONS_ROOT"
  | .getProposalsHash => "GET_PROPOSALS_HASH"
  | .getUnclesHash => "GET_UNCLES_HASH"
  | .getDao => "GET_DAO"
  | .getNonce => "GET_NONCE"
  | .getDepType => "GET_DEP_TYPE"
  | .getTxHash => "GET_TX_HASH"
  | .getIndex => "GET_INDEX"
  | .getSince => "GET_SINCE"
  | .getPreviousOutput => "GET_PREVIOUS_OUTPUT"

/-- The type with a number, if the table has one. -/
def ofCode? (code : Int32) : Option NodeType := all.find? fun type => type.code = code

/-- The type with a name, if the table has one. -/
def ofName? (name : String) : Option NodeType := all.find? fun type => type.name = name

/-- Every type is in the table. -/
theorem mem_all (type : NodeType) : type ∈ all := by cases type <;> decide

/-- A type is found under its number. -/
theorem ofCode?_code (type : NodeType) : ofCode? type.code = some type := by
  cases type <;> decide

/-- The number under which a type is found is its own. -/
theorem code_of_ofCode? {code : Int32} {type : NodeType} (found : ofCode? code = some type) :
    type.code = code := by
  simpa using List.find?_some found

/-- A type is found under its name. -/
theorem ofName?_name (type : NodeType) : ofName? type.name = some type := by
  cases type <;> decide

end NodeType

end AstView
