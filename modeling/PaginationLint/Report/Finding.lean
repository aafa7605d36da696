import PaginationLint.Json.Printer
import PaginationLint.Lint.Diagnostic
import PaginationLint.Report.Basic
import PaginationLint.Report.Snippet
import PaginationLint.Source.Position

/-!
Findings as texts: for people, with a snippet if the source text is known, and for programs, as one
JSON object a line.
-/

namespace PaginationLint

/-- How findings are written. -/
inductive Format where
  | text
  | json
  deriving DecidableEq, Repr, Inhabited

namespace Diagnostic

/-- The code of a finding. -/
def code : String := "awspagination::missing_pagination"

/-- A finding without its source text. -/
def plain (d : Diagnostic) : String :=
  s!"{d.file}:{d.span.start.toNat}..{d.span.stop.toNat}: {d.message}"

/-- A finding with its source text. There is none if the span lies outside of it. -/
def report? (d : Diagnostic) (source : String) : Option Report :=
  (snippet? d.file source d.span "paginated call").map fun excerpt =>
    { message := d.headline, excerpt := excerpt, help? := d.advice, code? := some code }

/-- A finding as text. -/
def toText? (d : Diagnostic) : Option String → Option String
  | some source => (d.report? source).map Report.render
  | none => some d.plain

/-- A finding as a JSON object; its line and column are null if the source text is unknown. -/
def toJson (d : Diagnostic) (source : Option String) : Json :=
  let position := source.map fun text => (LineIndex.ofText text).position d.span.start
  let coordinate (f : Position → UInt32) : Json :=
    match position with
    | some p => .ofNat (f p).toNat
    | none => .null
  .object
    [("column", coordinate Position.column), ("file", .string d.file),
      ("line", coordinate Position.line), ("message", .string d.message),
      ("span_end", .ofNat d.span.stop.toNat), ("span_start", .ofNat d.span.start.toNat)]

end Diagnostic

end PaginationLint
