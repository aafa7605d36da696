import PaginationLint.Source.Headline
import PaginationLint.Source.Span

/-!
Findings.
-/

namespace PaginationLint

/-- The name under which findings are reported. -/
def analyzerName : String := "awspagination"

/-- What the analyzer does. -/
def analyzerDoc : String :=
  "check for missing pagination handling in AWS SDK List API calls\n\n" ++
  "This linter detects calls to AWS SDK v2 List APIs that return pagination tokens\n" ++
  "(NextToken, NextMarker, NextContinuationToken, etc.) but don't implement pagination handling."

/-- A finding at a place of a source file. -/
structure Diagnostic where
  analyzer : String := analyzerName
  file : String
  span : Span
  message : String
  deriving DecidableEq, Repr, Inhabited

namespace Diagnostic

/-- The finding in one line. -/
def headline (d : Diagnostic) : String := PaginationLint.headline d.message

/-- The rest of the message. -/
def advice (d : Diagnostic) : Option String := PaginationLint.advice d.message

end Diagnostic

end PaginationLint
