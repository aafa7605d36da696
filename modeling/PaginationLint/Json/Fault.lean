/-!
The two ways in which a JSON text can fail to be one.
-/

namespace PaginationLint

/-- Why a text is not a JSON document. -/
inductive Fault where
  /-- Something stands where JSON does not allow it. -/
  | malformed
  /-- The text ends before the document does. -/
  | cutShort
  deriving DecidableEq, Repr, Inhabited

end PaginationLint
