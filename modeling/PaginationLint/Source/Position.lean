/-!
Lines and columns of a source text.

A `LineIndex` holds the offsets at which the lines of a text start. The line of an offset is the
last one that starts at or before it; lines and columns count from one, columns in bytes, and an
offset beyond the text counts as its end. Offsets are 32-bit words, so a text has fewer than
`2 ^ 32` bytes.
-/

namespace PaginationLint

/-- A place in a source text, counted from one. -/
structure Position where
  line : UInt32
  column : UInt32
  deriving DecidableEq, Repr, Inhabited

/-- The line starts of a text, increasing, and its length in bytes. -/
structure LineIndex where
  starts : Array UInt32
  length : UInt32
  deriving Repr, Inhabited

namespace LineIndex

/-- One past each newline, for text that starts at byte `offset`. -/
def startsAfter (offset : Nat) : List Char → List UInt32
  | [] => []
  | c :: cs =>
    if c = '\n' then (UInt32.ofNat offset + 1) :: startsAfter (offset + 1) cs
    else startsAfter (offset + c.utf8Size) cs

/-- The line starts of a text. -/
def ofText (text : String) : LineIndex where
  starts := (0 :: startsAfter 0 text.toList).toArray
  length := UInt32.ofNat text.utf8ByteSize

/-- Where a search among the line starts ends. -/
inductive Hit where
  /-- At a line that starts at the offset. -/
  | exact (line : Nat)
  /-- Where such a line would stand: at the first line that starts beyond the offset. -/
  | next (line : Nat)
  deriving DecidableEq, Repr

/-- Searches for `offset` among the line starts, if those below `lo` are less and those from `hi` on
are greater, by halving. -/
def search (index : LineIndex) (offset : UInt32) (lo hi : Nat) : Hit :=
  if lo < hi then
    let mid := (lo + hi) / 2
    let start := index.starts.getD mid 0
    if start = offset then .exact mid
    else if start < offset then search index offset (mid + 1) hi
    else search index offset lo mid
  else .next lo
termination_by hi - lo
decreasing_by all_goals omega

/-- The line, counted from zero, that holds `offset`: the one that starts there, or else the one in
front of the first that starts beyond it. -/
def line (index : LineIndex) (offset : UInt32) : Nat :=
  match index.search offset 0 index.starts.size with
  | .exact line => line
  | .next line => line - 1

/-- The place of a byte offset. -/
def position (index : LineIndex) (offset : UInt32) : Position :=
  let offset := min offset index.length
  let line := index.line offset
  ⟨UInt32.ofNat line + 1, offset - index.starts.getD line 0 + 1⟩

end LineIndex

end PaginationLint
