import AstView.Wire.Error

/-!
# Errors

Reading, rendering and converting fail in seven ways. Each carries the text of its cause, and
one function gives the line for the user. Causes that this library tells apart itself have
types of their own, such as `Wire.DecodeError`, and become text here.
-/
namespace AstView

/-- Why a document could not be read, rendered or converted. -/
inductive Error where
  /-- No format has this name. -/
  | formatNotFound (name : String)
  /-- A request or a parameter that is not supported. -/
  | notSupported (reason : String)
  /-- The input file could not be read. -/
  | inputRead (path reason : String)
  /-- The input is no document. -/
  | deserialization (reason : String)
  /-- The output file could not be created. -/
  | outputCreate (path reason : String)
  /-- The output could not be written. -/
  | write (reason : String)
  /-- The output could not be put into the form asked for. -/
  | serialization (reason : String)
  deriving Repr, DecidableEq

namespace Error

/-- The line that tells the user about an error. -/
def message : Error → String
  | formatNotFound name => s!"Format '{name}' not found"
  | notSupported reason => s!"Operation not supported: {reason}"
  | inputRead path reason => s!"Error reading file '{path}': {reason}"
  | deserialization reason => s!"Failed to decode AST: {reason}"
  | outputCreate path reason => s!"Error creating file '{path}': {reason}"
  | write reason => s!"Write error: {reason}"
  | serialization reason => s!"Serialization error: {reason}"

/-- Bytes that are no document. -/
def ofDecodeError (error : Wire.DecodeError) : Error := .deserialization error.message

end Error

end AstView
