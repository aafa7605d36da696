import PaginationLint.Source.Span
import PaginationLint.Text.Bytes

/-!
Snippets: the lines of a source text around a span, with a label where the span lies.

A snippet reaches from three lines before the span to three lines behind it. To choose it, a
newline, a carriage return with a newline, and a lone carriage return all end a line; within the
snippet a lone carriage return is part of its line.

There is no snippet if the last byte of the span lies beyond the end of the text; a last byte just
at the end still has one.
-/

namespace PaginationLint

/-- Lines shown before and behind a span. -/
def contextLines : Nat := 3

/-! ### The choice of lines -/

/-- A line break, by the offsets of its first and its last byte. -/
structure LineBreak where
  first : Nat
  last : Nat
  deriving DecidableEq, Repr

/-- The line breaks of a text that starts at byte `offset`. -/
def lineBreaks (offset : Nat) : List Char → List LineBreak
  | [] => []
  | '\r' :: '\n' :: cs => ⟨offset, offset + 1⟩ :: lineBreaks (offset + 2) cs
  | '\r' :: cs => ⟨offset, offset⟩ :: lineBreaks (offset + 1) cs
  | '\n' :: cs => ⟨offset, offset⟩ :: lineBreaks (offset + 1) cs
  | c :: cs => lineBreaks (offset + c.utf8Size) cs

/-- The offset of the last byte of a span; an empty span ends before its start. -/
def lastByte (span : Span) : Nat := span.start.toNat + span.length - 1

/-- Part of a source text, by whole lines. -/
structure Snippet where
  /-- The number of lines before it. -/
  linesBefore : Nat
  /-- The offset at which it starts. -/
  offset : Nat
  text : List Char
  deriving DecidableEq, Repr

/-- The lines around a span. -/
def Snippet.around? (source : List Char) (span : Span) : Option Snippet :=
  if byteLength source < lastByte span then none
  else
    let breaks := lineBreaks 0 source
    let before := breaks.takeWhile (·.last < span.start.toNat)
    let hidden := before.length - contextLines
    let start := match (before.take hidden).getLast? with
      | some b => b.last + 1
      | none => 0
    let behind := breaks.filter (lastByte span < ·.first)
    let stop := match (behind.drop contextLines).head? with
      | some b => b.last + 1
      | none => byteLength source
    some ⟨hidden, start, takeBytes (stop - start) (dropBytes start source)⟩

/-! ### The lines of a snippet -/

/-- A line of a snippet. -/
structure SnippetLine where
  number : Nat
  offset : Nat
  text : List Char
  /-- Is its end the end of the snippet, with a line break? -/
  closing : Bool
  deriving DecidableEq, Repr

/-- The lines of a text, where `line` lines come before it, `current` is read of the line at hand
(last character first) and that line starts at `offset`. A carriage return at the very end closes
the snippet without ending its line, which then keeps the number of the one before. -/
def snippetLines (line offset : Nat) (current : List Char) : List Char → List SnippetLine
  | [] => if current.isEmpty then [] else [⟨line + 1, offset, current.reverse, false⟩]
  | ['\r'] => [⟨line, offset, ('\r' :: current).reverse, true⟩]
  | '\r' :: '\n' :: cs =>
    ⟨line + 1, offset, current.reverse, cs.isEmpty⟩ ::
      snippetLines (line + 1) (offset + byteLength current + 2) [] cs
  | '\n' :: cs =>
    ⟨line + 1, offset, current.reverse, cs.isEmpty⟩ ::
      snippetLines (line + 1) (offset + byteLength current + 1) [] cs
  | c :: cs => snippetLines line offset (c :: current) cs

/-- The lines of a snippet. -/
def Snippet.lines (s : Snippet) : List SnippetLine := snippetLines s.linesBefore s.offset [] s.text

/-! ### The label -/

/-- How a span meets a line; columns count from one. -/
inductive Label where
  /-- The span lies in the line. -/
  | within (first last : Nat)
  | starts (column : Nat)
  | ends (column : Nat)
  deriving DecidableEq, Repr

/-- Is this a control character? -/
def isControl (c : Char) : Bool := c.toNat < 32 || (127 ≤ c.toNat && c.toNat < 160)

/-- The number of columns before byte `n` of a line. Beyond the end of the line control characters
take no column. -/
def columnsBefore (n : Nat) (text : List Char) : Nat :=
  let before := takeBytes n text
  if byteLength before = n then before.length
  else (before.filter fun c => !isControl c).length

/-- How a span meets a line. -/
def SnippetLine.label? (line : SnippetLine) (span : Span) : Option Label :=
  let first := span.start.toNat
  let stop := first + span.length
  let lineEnd := line.offset + byteLength line.text
  let startsHere := line.offset ≤ first
  let endsHere := line.closing ∨ stop ≤ lineEnd
  let start := columnsBefore (first - line.offset) line.text + 1
  let last := columnsBefore (stop - line.offset) line.text
  if startsHere ∧ endsHere then some (.within start (if span.isEmpty then start else last))
  else if startsHere ∧ first ≤ lineEnd then some (.starts start)
  else if endsHere ∧ line.offset ≤ stop then some (.ends last)
  else none

/-- Where a label of a line lies. -/
def Label.place (number : Nat) : Label → String
  | .within first last =>
    if first = last then s!"label at line {number}, column {first}"
    else s!"label at line {number}, columns {first} to {last}"
  | .starts column => s!"label starting at line {number}, column {column}"
  | .ends column => s!"label ending at line {number}, column {column}"

/-! ### The text of a snippet -/

/-- The text of a line and, where the span meets it, of the label. -/
def SnippetLine.render (line : SnippetLine) (span : Span) (label : String) : List String :=
  s!"snippet line {line.number}: {String.ofList line.text}" ::
    ((line.label? span).map fun l => s!"    {l.place line.number}: {label}").toList

/-- The lines that show a span of a source file. -/
def snippet? (file source : String) (span : Span) (label : String) : Option (List String) :=
  (Snippet.around? source.toList span).map fun s =>
    s!"Begin snippet for {file} starting at line {s.linesBefore + 1}, column 1" :: "" ::
      s.lines.flatMap (·.render span label)

end PaginationLint
