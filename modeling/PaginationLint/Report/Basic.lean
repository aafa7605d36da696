/-!
Reports: what a run tells its user about a failure or a finding.

A report has a message, the causes behind it, an excerpt of a source text, and what helps.
-/

namespace PaginationLint

/-- Something to tell the user. -/
structure Report where
  message : String
  /-- What led to it, the nearest cause first. -/
  causes : List String := []
  /-- Lines that show the place it is about. -/
  excerpt : List String := []
  help? : Option String := none
  code? : Option String := none
  deriving DecidableEq, Repr, Inhabited

namespace Report

/-- The report line by line. -/
def lines (r : Report) : List String :=
  [r.message, "    Diagnostic severity: error"] ++ r.causes.map ("    Caused by: " ++ ·) ++
    r.excerpt ++ (r.help?.map ("diagnostic help: " ++ ·)).toList ++
    (r.code?.map ("diagnostic code: " ++ ·)).toList

/-- The text of a report, each of its lines with its newline. -/
def render (r : Report) : String := String.join (r.lines.map (· ++ "\n"))

end Report

end PaginationLint
