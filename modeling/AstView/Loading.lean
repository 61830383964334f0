import AstView.Error
import AstView.Document
import AstView.Host

/-!
# Reading documents from files

The bytes of a file are read as a document. A file that cannot be read and bytes that are no
document are different errors.
-/
namespace AstView.Document

/-- Reads the document of a file. -/
def loadPath {m : Type → Type} [Monad m] (host : Host m) (path : String) :
    m (Except Error (Bytes × Document)) := do
  match ← host.read path with
  | .error error => return .error (.inputRead path error.message)
  | .ok bytes =>
    match load bytes with
    | .error error => return .error (.ofDecodeError error)
    | .ok document => return .ok (bytes, document)

end AstView.Document
