/-!
Byte ranges of a source text.

Spans come from whoever wrote the program unit and are not checked: an end before the start makes
an empty span.
-/

namespace PaginationLint

/-- A byte range of a source text; `stop` is the first byte after it. -/
structure Span where
  start : UInt32 := 0
  stop : UInt32 := 0
  deriving DecidableEq, Repr, Inhabited

namespace Span

/-- Length in bytes; zero if the end precedes the start. -/
def length (s : Span) : Nat := s.stop.toNat - s.start.toNat

def isEmpty (s : Span) : Bool := s.length == 0

/-- The range as its first offset and the first one after it. -/
def range (s : Span) : Nat × Nat := (s.start.toNat, s.start.toNat + s.length)

end Span

end PaginationLint
