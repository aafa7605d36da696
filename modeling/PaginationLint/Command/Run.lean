import PaginationLint.Command.Log
import PaginationLint.Report.Basic

/-!
Runs: what a command writes, in order, and how it ends.
-/

namespace PaginationLint

/-- Something that a run writes. -/
inductive Written where
  | output (text : String)
  | error (text : String)
  | log (event : Event)
  deriving DecidableEq, Repr, Inhabited

/-- How a run ends. -/
inductive Ending where
  | done
  | failed (report : Report)
  /-- A finding could not be shown. -/
  | crashed
  /-- The arguments make no sense. -/
  | misused (reason : String)
  deriving DecidableEq, Repr, Inhabited

/-- The exit status of an ending. -/
def Ending.status : Ending → Nat
  | .done => 0
  | .failed _ => 1
  | .misused _ => 2
  | .crashed => 101

/-- What an ending writes on the error stream. -/
def Ending.text : Ending → String
  | .failed report => report.render ++ "\n"
  | .misused reason => s!"error: {reason}\n"
  | .done | .crashed => ""

/-- What a command writes, and how it ends. -/
structure Run where
  written : List Written := []
  ending : Ending := .done
  deriving DecidableEq, Repr, Inhabited

namespace Run

/-- A run that writes an output and succeeds. -/
def output (text : String) : Run := ⟨[.output text], .done⟩

/-- A run that ends in a report. -/
def fail (report : Report) : Run := ⟨[], .failed report⟩

/-- The same run, with something written before it. -/
def after (written : List Written) (run : Run) : Run := ⟨written ++ run.written, run.ending⟩

/-- Goes on after a run, unless it has come to its end. -/
def andThen {m : Type → Type} [Monad m] (run : Run) (next : m Run) : m Run :=
  match run.ending with
  | .done => return (← next).after run.written
  | _ => return run

/-- Leaves out the events that are not shown at a verbosity. -/
def shownAt (verbosity : Nat) (run : Run) : Run :=
  ⟨run.written.filter fun
    | .log e => e.level.verbosity ≤ verbosity
    | _ => true,
  run.ending⟩

/-- The text on the output stream. -/
def stdout (run : Run) : String :=
  String.join (run.written.map fun
    | .output text => text
    | _ => "")

/-- The text on the error stream, with the log or without it. -/
def stderr (run : Run) (logging : Bool) : String :=
  String.join (run.written.map fun
    | .error text => text
    | .log e => if logging then e.render ++ "\n" else ""
    | .output _ => "") ++ run.ending.text

/-- The exit status. -/
def status (run : Run) : Nat := run.ending.status

end Run

end PaginationLint
