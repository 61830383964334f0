/-!
# Calls and streams

A document has entries of two roles: calls, which produce a value, and streams, which a value
gates. Both have a name and one value tree, and the views treat them alike up to the words
and letters they use for them.
-/
namespace AstView

/-- The part that an entry plays in its document. -/
inductive Role where
  /-- A named operation that produces one result. -/
  | call
  /-- A named data stream gated by a filter. -/
  | stream
  deriving Repr, DecidableEq, Inhabited

end AstView
