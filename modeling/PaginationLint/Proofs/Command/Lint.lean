import PaginationLint.Command.Lint
import PaginationLint.Proofs.Command.Run

/-!
Runs over unit files.

Whatever a disk answers, a run reads the units in front of the first file that holds none and goes
through their findings. It ends at the first finding that cannot be shown; else in the report of
that file, or if there is none in the verdict on all findings. Up to there it prints one line for
each finding if the lines are asked for as JSON.
-/

namespace PaginationLint

variable {ρ : Type} [MonadDisk (ReaderM ρ)] (disk : ρ)

/-! ### Answers of a disk -/

/-- What a path leads to. -/
def lookAt (path : String) : Look := (MonadDisk.look path : ReaderM ρ Look).run disk

/-- The text of a file. -/
def readAt (path : String) : Except ReadError String :=
  (MonadDisk.read path : ReaderM ρ (Except ReadError String)).run disk

/-- The unit in a file, if its text can be read and is one. -/
def unitAt? (path : String) : Option ProgramUnit :=
  match readAt disk path with
  | .ok text => (Wire.ofText text).toOption
  | .error _ => none

/-- The source text for a finding: the one that the first file with its path has, else the one at
that path. -/
def sourceAt? (u : ProgramUnit) (d : Diagnostic) : Option String :=
  (u.files.find? (·.path == d.file)).bind fun file =>
    match file.source with
    | some text => some text
    | none => (readAt disk file.path).toOption

/-! ### Findings of a run -/

/-- The units in front of the first file that holds none. -/
def unitsRead (files : List String) : List ProgramUnit :=
  ((files.map (unitAt? disk)).takeWhile Option.isSome).filterMap id

/-- The findings in units, each with its unit. -/
def findingsIn (config : Config) (units : List ProgramUnit) : List (ProgramUnit × Diagnostic) :=
  units.flatMap fun u => (lint u config).map (u, ·)

/-- Can a finding be shown? -/
def canShow (format : Format) (finding : ProgramUnit × Diagnostic) : Bool :=
  (showFinding format finding.2 (sourceAt? disk finding.1 finding.2)).ending = .done

/-- Why the unit in a file cannot be read. -/
def failureAt? (path : String) : Option Report :=
  match (loadUnit path : ReaderM ρ (Except Report ProgramUnit)).run disk with
  | .ok _ => none
  | .error report => some report

variable {disk}

section Units

variable {path : String} {files : List String} {u : ProgramUnit}

/-- A file holds a unit, or there is a report on it. -/
theorem loadUnit_cases (disk : ρ) (path : String) :
    (∃ u, (loadUnit path : ReaderM ρ (Except Report ProgramUnit)).run disk = .ok u ∧
      unitAt? disk path = some u ∧ failureAt? disk path = none) ∨
    ∃ report, (loadUnit path : ReaderM ρ (Except Report ProgramUnit)).run disk = .error report ∧
      unitAt? disk path = none ∧ failureAt? disk path = some report := by
  have answer : (MonadDisk.read path : ReaderM ρ (Except ReadError String)).run disk =
    readAt disk path := rfl
  rw [unitAt?, failureAt?, loadUnit, run_bind, answer]
  cases readAt disk path with
  | error e => exact .inr ⟨_, rfl, rfl, rfl⟩
  | ok text =>
    dsimp only
    cases Wire.ofText (α := ProgramUnit) text with
    | error e => exact .inr ⟨_, rfl, rfl, rfl⟩
    | ok u => exact .inl ⟨u, rfl, rfl, rfl⟩

theorem unitsRead_cons_of_some (h : unitAt? disk path = some u) :
    unitsRead disk (path :: files) = u :: unitsRead disk files := by
  simp [unitsRead, h]

theorem unitsRead_cons_of_none (h : unitAt? disk path = none) :
    unitsRead disk (path :: files) = [] := by
  simp [unitsRead, h]

/-- Nothing is reported iff all files are read. -/
theorem findSome?_failureAt?_eq_none_iff (files : List String) :
    files.findSome? (failureAt? disk) = none ↔ (unitsRead disk files).length = files.length := by
  induction files with
  | nil => simp [unitsRead]
  | cons path rest ih =>
    rcases loadUnit_cases disk path with ⟨u, -, unit, none⟩ | ⟨report, -, unit, some⟩
    · rw [List.findSome?_cons, none, unitsRead_cons_of_some unit]
      simpa using ih
    · rw [List.findSome?_cons, some, unitsRead_cons_of_none unit]
      simp

theorem findingsIn_cons (config : Config) (u : ProgramUnit) (units : List ProgramUnit) :
    findingsIn config (u :: units) =
      (lint u config).map (u, ·) ++ findingsIn config units := List.flatMap_cons

end Units

/-! ### Findings of one unit -/

section Findings

variable (format : Format) (u : ProgramUnit)

/-- Looking for a source text leaves nothing but events. -/
theorem run_sourceOf (d : Diagnostic) (disk : ρ) : ∃ events : List Event,
    (sourceOf u d : ReaderM ρ (Option String × List Written)).run disk =
      (sourceAt? disk u d, events.map .log) := by
  unfold sourceOf sourceAt?
  cases u.files.find? (·.path == d.file) with
  | none => exact ⟨[], rfl⟩
  | some file =>
    obtain ⟨path, source, decls⟩ := file
    cases source with
    | some text => exact ⟨[], rfl⟩
    | none =>
      have answer : (MonadDisk.read path : ReaderM ρ (Except ReadError String)).run disk =
        readAt disk path := rfl
      dsimp only [SourceFile.text, Option.bind_some]
      rw [run_bind, answer]
      cases readAt disk path with
      | ok text => exact ⟨[], rfl⟩
      | error e => exact ⟨[_], rfl⟩

/-- One finding is shown, and then the others. -/
theorem run_showFindings_cons (d : Diagnostic) (rest : List Diagnostic) (disk : ρ) :
    ∃ events : List Event, (showFindings format u (d :: rest) : ReaderM ρ Run).run disk =
      (((showFinding format d (sourceAt? disk u d)).after (events.map .log)).andThen
        (showFindings format u rest : ReaderM ρ Run)).run disk := by
  obtain ⟨events, found⟩ := run_sourceOf u d disk
  refine ⟨events, ?_⟩
  rw [showFindings, run_bind, found]

theorem ending_showFinding (d : Diagnostic) :
    (showFinding format d (sourceAt? disk u d)).ending =
      if canShow disk format (u, d) then .done else .crashed := by
  unfold canShow showFinding
  cases format with
  | json => rfl
  | text => cases d.toText? (sourceAt? disk u d) <;> rfl

theorem ending_showFindings (disk : ρ) (findings : List Diagnostic) :
    ((showFindings format u findings : ReaderM ρ Run).run disk).ending =
      if (findings.map (u, ·)).all (canShow disk format) then .done else .crashed := by
  induction findings with
  | nil => rfl
  | cons d rest ih =>
    obtain ⟨events, shown⟩ := run_showFindings_cons format u d rest disk
    rw [shown, Run.ending_andThen, Run.ending_after, ending_showFinding, ih, List.map_cons,
      List.all_cons]
    cases canShow disk format (u, d) <;> rfl

/-- As JSON, each finding prints its line. -/
theorem stdout_showFindings_json (disk : ρ) (findings : List Diagnostic) :
    ((showFindings .json u findings : ReaderM ρ Run).run disk).stdout =
      String.join (findings.map fun d => (d.toJson (sourceAt? disk u d)).compact ++ "\n") := by
  induction findings with
  | nil => rfl
  | cons d rest ih =>
    obtain ⟨events, shown⟩ := run_showFindings_cons .json u d rest disk
    rw [shown, Run.stdout_andThen_of_done rfl, ih, Run.stdout_after_log, List.map_cons,
      String.join_cons]
    exact congrArg (· ++ _) (Run.stdout_output _)

end Findings

/-! ### A run over units -/

section Runs

variable (format : Format) (config : Config) (units : Nat)

theorem run_lintUnits_of_ok {path : String} {u : ProgramUnit}
    (loaded : (loadUnit path : ReaderM ρ (Except Report ProgramUnit)).run disk = .ok u)
    (rest : List String) (total : Nat) :
    (lintUnits format config units total (path :: rest) : ReaderM ρ Run).run disk =
      ((((showFindings format u (lint u config) : ReaderM ρ Run).run disk).after
        ((lintEvents path u config).map .log)).andThen (lintUnits format config units
          (total + (lint u config).length) rest : ReaderM ρ Run)).run disk := by
  rw [lintUnits, run_bind, loaded]
  rfl

theorem run_lintUnits_of_error {path : String} {report : Report}
    (loaded : (loadUnit path : ReaderM ρ (Except Report ProgramUnit)).run disk = .error report)
    (rest : List String) (total : Nat) :
    (lintUnits format config units total (path :: rest) : ReaderM ρ Run).run disk =
      .fail report := by
  rw [lintUnits, run_bind, loaded]
  rfl

theorem ending_lintUnits (disk : ρ) (files : List String) (total : Nat) :
    ((lintUnits format config units total files : ReaderM ρ Run).run disk).ending =
      if (findingsIn config (unitsRead disk files)).all (canShow disk format) then
        (files.findSome? (failureAt? disk)).elim
          (verdict units (total + (findingsIn config (unitsRead disk files)).length)) .failed
      else .crashed := by
  induction files generalizing total with
  | nil => rfl
  | cons path rest ih =>
    rcases loadUnit_cases disk path with ⟨u, loaded, unit, none⟩ | ⟨report, loaded, unit, some⟩
    · rw [run_lintUnits_of_ok format config units loaded, Run.ending_andThen, Run.ending_after,
        ending_showFindings, ih, unitsRead_cons_of_some unit, List.findSome?_cons, none,
        findingsIn_cons, List.all_append, List.length_append, List.length_map, Nat.add_assoc]
      cases ((lint u config).map (u, ·)).all (canShow disk format) <;> rfl
    · rw [run_lintUnits_of_error format config units loaded, unitsRead_cons_of_none unit,
        List.findSome?_cons, some]
      rfl

theorem stdout_lintUnits_json (disk : ρ) (files : List String) (total : Nat) :
    ((lintUnits .json config units total files : ReaderM ρ Run).run disk).stdout =
      String.join ((findingsIn config (unitsRead disk files)).map fun (u, d) =>
        (d.toJson (sourceAt? disk u d)).compact ++ "\n") := by
  induction files generalizing total with
  | nil => rfl
  | cons path rest ih =>
    rcases loadUnit_cases disk path with ⟨u, loaded, unit, -⟩ | ⟨report, loaded, unit, -⟩
    · have shown : (((showFindings .json u (lint u config) : ReaderM ρ Run).run disk).after
          ((lintEvents path u config).map .log)).ending = .done := by
        rw [Run.ending_after, ending_showFindings, if_pos]
        simp [canShow, showFinding, Run.output]
      rw [run_lintUnits_of_ok .json config units loaded, Run.stdout_andThen_of_done shown,
        Run.stdout_after_log, stdout_showFindings_json, ih, unitsRead_cons_of_some unit,
        findingsIn_cons, List.map_append, List.map_map, String.join_append]
      rfl
    · rw [run_lintUnits_of_error .json config units loaded, unitsRead_cons_of_none unit]
      rfl

end Runs

end PaginationLint
