import PaginationLint.Command.Run
import PaginationLint.Command.Units
import PaginationLint.Lint.Basic
import PaginationLint.Report.Finding
import PaginationLint.Text.Escaped
import PaginationLint.Wire.Codec

/-!
The command that lints units.

All paths are resolved before the first unit is read. Then each unit is read, linted and its
findings written, before the next one is read; a unit that cannot be read ends the run.
-/

namespace PaginationLint

variable {m : Type → Type} [Monad m] [MonadDisk m]

/-! ### Events -/

/-- The event of an observation. -/
def Observation.event (o : Observation) : Event :=
  let origin := "awspagination_core::lint::missing_pagination"
  match o with
  | .skippedTest file => ⟨.debug, origin, "skipping test file", [("file", file)]⟩
  | .outsideFunction file =>
    ⟨.trace, origin, "assignment outside a function declaration", [("file", file)]⟩
  | .unresolved file offset =>
    ⟨.debug, origin, "call result type unresolved, skipping",
      [("file", file), ("offset", s!"{offset.toNat}")]⟩
  | .foreign file offset =>
    ⟨.trace, origin, "result type is not from the AWS SDK",
      [("file", file), ("offset", s!"{offset.toNat}")]⟩
  | .unhandled function holder finding =>
    ⟨.debug, origin, "unhandled pagination token",
      [("file", finding.file), ("function", function), ("variable", escaped holder)]⟩

/-- The events of linting a unit with a path. -/
def lintEvents (path : String) (u : ProgramUnit) (config : Config) : List Event :=
  let count := s!"{(lint u config).length}"
  (Lint.observe u config).map Observation.event ++
    [⟨.debug, "awspagination_core::lint", "lint passes complete",
        [("package", u.package), ("files", s!"{u.files.length}"), ("diagnostics", count)]⟩,
      ⟨.info, "awspagination::commands::lint", "analysed unit",
        [("unit", path), ("diagnostics", count)]⟩]

/-! ### Findings -/

/-- The source text of a file: the one that its unit holds, or else the one on the disk. -/
def SourceFile.text (file : SourceFile) : m (Except ReadError String) :=
  match file.source with
  | some text => return .ok text
  | none => MonadDisk.read file.path

/-- The source text of a finding, if it is known, with what is written on the search for it. -/
def sourceOf (u : ProgramUnit) (d : Diagnostic) : m (Option String × List Written) :=
  match u.files.find? (·.path == d.file) with
  | none => return (none, [])
  | some file => do
    match ← file.text with
    | .ok text => return (some text, [])
    | .error e =>
      return (none, [.log ⟨.debug, "awspagination::commands::lint", "source text unavailable",
        [("file", file.path), ("error", e.message)]⟩])

/-- Writes a finding. -/
def showFinding (format : Format) (d : Diagnostic) (source : Option String) : Run :=
  match format with
  | .json => .output ((d.toJson source).compact ++ "\n")
  | .text =>
    match d.toText? source with
    | some text => ⟨[.error (text ++ "\n")], .done⟩
    | none => ⟨[], .crashed⟩

/-- Writes findings in a unit, one after another. -/
def showFindings (format : Format) (u : ProgramUnit) : List Diagnostic → m Run
  | [] => return {}
  | d :: rest => do
    let (source, written) ← sourceOf u d
    ((showFinding format d source).after written).andThen (showFindings format u rest)

/-! ### Units -/

/-- Reads the unit at a path. -/
def loadUnit (path : String) : m (Except Report ProgramUnit) := do
  match ← MonadDisk.read path with
  | .error e => return .error { message := s!"Failed to read '{path}'", causes := [e.message] }
  | .ok text =>
    match Wire.ofText text with
    | .error e =>
      return .error
        { message := s!"'{path}' is not a valid program unit", causes := [e.message] }
    | .ok u => return .ok u

/-- The ending of a run over units with some findings. -/
def verdict (units total : Nat) : Ending :=
  if total = 0 then .done
  else
    let plural := if total = 1 then "" else "s"
    .failed { message := s!"{total} pagination diagnostic{plural} found in {units} unit(s)" }

/-- Lints units, one after another, when there are `units` in all and there were `total` findings
before. -/
def lintUnits (format : Format) (config : Config) (units total : Nat) : List String → m Run
  | [] => return ⟨[], verdict units total⟩
  | path :: rest => do
    match ← loadUnit path with
    | .error report => return .fail report
    | .ok u =>
      let findings := lint u config
      let shown ← showFindings format u findings
      (shown.after ((lintEvents path u config).map .log)).andThen
        (lintUnits format config units (total + findings.length) rest)

/-- Lints the units that paths name. -/
def lintPaths (paths : List String) (format : Format) (config : Config) : m Run := do
  match ← unitPaths paths with
  | .error report => return .fail report
  | .ok units => lintUnits format config units.length 0 units

end PaginationLint
