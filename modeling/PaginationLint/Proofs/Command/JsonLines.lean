import PaginationLint.Proofs.Command.Program
import PaginationLint.Proofs.Json.Printer
import PaginationLint.Proofs.Types.Reachability
import PaginationLint.Proofs.Wire.NormalForm

/-!
Findings as JSON lines.

Main statement: if settings and paths resolve, the output is one line for each finding in the units
that were read, in order; the exit status is zero only if all units were read and no line was
printed, and the number of findings in the last report is the number of lines.
-/

namespace PaginationLint

variable {ρ : Type} [MonadDisk (ReaderM ρ)]

/-- Where a finding starts, if its source text is known. -/
def placeAt? (disk : ρ) (u : ProgramUnit) (d : Diagnostic) : Option Position :=
  (sourceAt? disk u d).map fun text => (LineIndex.ofText text).position d.span.start

/-- The line for a finding. -/
def findingLine (disk : ρ) (finding : ProgramUnit × Diagnostic) : String :=
  let d := finding.2
  let place := placeAt? disk finding.1 d
  let object := Json.object
    [("column", place.elim .null fun p => .ofNat p.column.toNat), ("file", .string d.file),
      ("line", place.elim .null fun p => .ofNat p.line.toNat), ("message", .string d.message),
      ("span_end", .ofNat d.span.stop.toNat), ("span_start", .ofNat d.span.start.toNat)]
  object.compact ++ "\n"

theorem compact_toJson (disk : ρ) (u : ProgramUnit) (d : Diagnostic) :
    (d.toJson (sourceAt? disk u d)).compact ++ "\n" = findingLine disk (u, d) := by
  simp only [findingLine, placeAt?, Diagnostic.toJson]
  cases sourceAt? disk u d with
  | none => rfl
  | some text => rfl

/-- The newlines in a text of findings count them. -/
theorem count_newline_join_findingLine (disk : ρ) (findings : List (ProgramUnit × Diagnostic)) :
    (String.join (findings.map (findingLine disk))).toList.count '\n' = findings.length := by
  induction findings with
  | nil => rfl
  | cons finding rest ih =>
    have line : (findingLine disk finding).toList.count '\n' = 1 := by
      rw [findingLine, String.toList_append, List.count_append,
        List.count_eq_zero_of_not_mem (Json.newline_notMem_compact _)]
      rfl
    rw [List.map_cons, String.join_cons, String.toList_append, List.count_append, line, ih,
      List.length_cons, Nat.add_comm]

/-- No text of findings is empty but the one of none. -/
theorem join_findingLine_eq_empty_iff (disk : ρ) (findings : List (ProgramUnit × Diagnostic)) :
    String.join (findings.map (findingLine disk)) = "" ↔ findings = [] := by
  constructor
  · intro empty
    have count := count_newline_join_findingLine disk findings
    rw [empty] at count
    exact List.length_eq_zero_iff.mp count.symm
  · rintro rfl
    rfl

theorem ending_lintUnits_json (config : Config) (units : Nat) (disk : ρ) (files : List String) :
    ((lintUnits .json config units 0 files : ReaderM ρ Run).run disk).ending =
      (files.findSome? (failureAt? disk)).elim
        (verdict units (findingsIn config (unitsRead disk files)).length) .failed := by
  have shown : (findingsIn config (unitsRead disk files)).all (canShow disk .json) = true :=
    List.all_eq_true.mpr fun _ _ => rfl
  rw [ending_lintUnits, if_pos shown, Nat.zero_add]

/-- The exit status is zero only if all units were read and there are no findings. -/
theorem status_lintUnits_json (config : Config) (units : Nat) (disk : ρ) (files : List String) :
    ((lintUnits .json config units 0 files : ReaderM ρ Run).run disk).status =
      if (unitsRead disk files).length = files.length ∧
        (findingsIn config (unitsRead disk files)).length = 0 then 0 else 1 := by
  rw [Run.status, ending_lintUnits_json]
  simp only [← findSome?_failureAt?_eq_none_iff]
  cases files.findSome? (failureAt? disk) with
  | some report => rfl
  | none =>
    rw [Option.elim_none, verdict]
    split <;> simp_all [Ending.status]

/-- What the lint command prints as JSON, and how it ends. -/
theorem run_lint_json (disk : ρ) {arguments paths : List String} {verbosity : Nat}
    {settings : SettingsSource} (accepted : Invocation.ofArguments arguments =
      .ok (.run verbosity (.lint paths .json settings))) :
    let run := (runProgram arguments : ReaderM ρ Run).run disk
    (((∀ config, configAt disk settings ≠ .ok config) ∨
        ∃ path ∈ paths, ∀ files, ¬ NamesUnits disk path files) →
      run.stdout = "" ∧ run.status = 1) ∧
    ∀ config files, Resolves disk settings paths config files →
      let units := unitsRead disk files
      let lines := run.stdout.toList.count '\n'
      let plural := if lines = 1 then "" else "s"
      run.stdout = String.join ((findingsIn config units).map (findingLine disk)) ∧
      (run.status = if units.length = files.length ∧ run.stdout = "" then 0 else 1) ∧
      (units.length = files.length → run.stdout ≠ "" →
        let total := s!"{lines} pagination diagnostic{plural} found in {files.length} unit(s)"
        run.ending = .failed { message := total }) := by
  intro run
  refine ⟨fun unresolved => ?_, fun config files resolves => ?_⟩
  · obtain ⟨silent, report, failed⟩ :=
      run_lint_of_not_resolves accepted (not_resolves_iff.mpr unresolved)
    exact ⟨silent, congrArg Ending.status failed⟩
  intro units lines plural
  obtain ⟨printed, ending⟩ := run_lint_of_resolves accepted resolves
  have stdout : run.stdout = String.join ((findingsIn config units).map (findingLine disk)) := by
    simpa only [stdout_lintUnits_json, compact_toJson] using printed
  -- a line holds one newline, at its end, so that the output tells the number of findings
  have counted : lines = (findingsIn config units).length := by
    rw [← count_newline_join_findingLine disk, ← stdout]
  have silent : run.stdout = "" ↔ lines = 0 := by
    rw [stdout, join_findingLine_eq_empty_iff, counted, List.length_eq_zero_iff]
  refine ⟨stdout, ?_, ?_⟩
  · have status : run.status = _ := congrArg Ending.status ending
    rw [status, ← Run.status, status_lintUnits_json, ← counted]
    simp only [silent, units]
  · intro complete spoken
    rw [ending_lintUnits_json, (findSome?_failureAt?_eq_none_iff files).mpr complete,
      ← counted] at ending
    exact ending.trans (if_neg (mt silent.mpr spoken))

/-! ### A call without a look at its token -/

/-- A call with a paginated result. -/
def pageCall (span : Span) : Expr := .call (.ident "l" {}) [] (some ⟨0⟩) span

def pageBody (span : Span) : Block := .mk [.assign [.ident "r" {}] [pageCall span] false {}] {}

/-- A file with a source text and, somewhere in it, the call. -/
def pageFile (source : String) (span : Span) : SourceFile where
  path := "a"
  source := some source
  decls := [.func { name := { name := "f" }, body := some (pageBody span) }]

def pageTypes : TypeTable :=
  ⟨#[.named "" (some "aws-sdk-go-v2/service/s") ⟨1⟩, .struct [⟨"NextToken", ⟨2⟩, false⟩]]⟩

def pageUnit (source : String) (span : Span) : ProgramUnit where
  types := pageTypes
  files := [pageFile source span]

def pageFinding (span : Span) : Diagnostic where
  file := "a"
  span := span
  message := Message.build ["NextToken"] (some "r") (.of pageTypes (.ident "l" {}) ⟨0⟩)

theorem tokenFields_pageTypes :
    let site := CallSite.of pageTypes (.ident "l" {}) ⟨0⟩
    pageTypes.applicableTokenFields ⟨0⟩ site.service ({} : Config).tokenFields = ["NextToken"] := by
  intro site
  have own : pageTypes.ownTokenFields ⟨0⟩ site.service = [] := by decide
  have token : pageTypes.tokenField? ⟨0⟩ ({} : Config).tokenFields = some "NextToken" :=
    TypeTable.search_of_answer (by decide)
  rw [TypeTable.applicableTokenFields, own, token]
  rfl

/-- The call is the only finding, wherever it stands. -/
theorem lint_pageUnit (source : String) (span : Span) :
    lint (pageUnit source span) {} = [pageFinding span] := by
  have result : pageTypes.resultType? ⟨0⟩ = some ⟨0⟩ := by decide
  have trusted : pageTypes.isTrusted ⟨0⟩ = true := by
    rw [TypeTable.isTrusted, TypeTable.search_of_answer (a := ()) (by decide)]
    rfl
  have bound : boundName? (.ident "r" {}) = some "r" := by decide
  have nodes : (pageBody span).nodes = [.stmt (.assign [.ident "r" {}] [pageCall span] false {}),
      .expr (.ident "r" {}), .expr (pageCall span), .expr (.ident "l" {})] := by
    rw [Block.nodes_eq_inner]
    rfl
  have unhandled : (pageBody span).handles "r" ["NextToken"] = false := by
    rw [Block.handles, nodes]
    rfl
  have judged : Lint.judge ⟨pageTypes, ({} : Config).tokenFields, "a", "f", pageBody span⟩
      (.ident "r" {}) (pageCall span) = some (.unhandled "f" "r" (pageFinding span)) := by
    simp [Lint.judge, pageCall, result, tokenFields_pageTypes, trusted, bound, unhandled,
      pageFinding]
  have kept : isTestFile "a" = false := by decide
  rw [lint, Lint.observe, pageUnit, pageFile]
  simp [Lint.observeFile, kept, Lint.observeDecl, nodes, Lint.judgeNode, judged,
    Observation.finding?]

theorem findingsIn_pageUnit (source : String) (span : Span) :
    findingsIn {} [pageUnit source span] = [(pageUnit source span, pageFinding span)] := by
  rw [findingsIn_cons, lint_pageUnit]
  rfl

/-- A text is read as a unit if it is decoded as its normal form. -/
theorem ofText_of_decodeText {text : String} {u : ProgramUnit}
    (decoded : Wire.decodeText (.record .unit) text = .ok u.toDatum) :
    Wire.ofText text = .ok u := by
  have shape : Wire.Codec.shape ProgramUnit = .record .unit := rfl
  rw [Wire.ofText, shape, decoded]
  exact congrArg Except.ok (ProgramUnit.ofDatum_toDatum u)

/-- The text of a unit with the call in the second line of its source text, each record by its
values alone. -/
def pageText : String :=
  "[\"\",[[\"named\",\"\",\"aws-sdk-go-v2/service/s\",1],[\"struct\",[[\"NextToken\",2]]]]," ++
  "[[\"a\",\"f\\nr = l()\",[[\"func\",[\"f\"],null,[[[\"assign\",[[\"ident\",\"r\"]]," ++
  "[[\"call\",[\"ident\",\"l\"],[],0,[6,9]]]]]]]]]]]"

/-- A tree with a directory that lists that unit behind a file that is none. -/
def pageTree : FileTree :=
  .directory [("d", .directory
    [("v.json", .file "".toUTF8), ("u.json", .file pageText.toUTF8)])]

theorem ofText_pageText : Wire.ofText pageText = .ok (pageUnit "f\nr = l()" ⟨6, 9⟩) :=
  ofText_of_decodeText (by decide +kernel)

theorem find_pageTree_u : pageTree.find "d/u.json" = .ok (.file pageText.toUTF8) :=
  FileTree.find_of_get? ["d", "u.json"] (by decide) rfl nofun

theorem find_pageTree_v : pageTree.find "d/v.json" = .ok (.file "".toUTF8) :=
  FileTree.find_of_get? ["d", "v.json"] (by decide) rfl nofun

theorem unitsRead_pageTree (files : List String) :
    unitsRead pageTree ("d/u.json" :: files) =
      pageUnit "f\nr = l()" ⟨6, 9⟩ :: unitsRead pageTree files :=
  unitsRead_cons_of_some (unitAt?_of_find find_pageTree_u ofText_pageText)

theorem unitsRead_pageTree_v : unitsRead pageTree ["d/v.json"] = [] := by
  have empty : Wire.decodeText (.record .unit) "" = .error (.fault .cutShort) := by decide +kernel
  refine unitsRead_cons_of_none ?_
  rw [unitAt?, readAt_of_find find_pageTree_v]
  exact congrArg (fun decoded => (decoded.map ProgramUnit.ofDatum).toOption) empty

def pageListing : Listing := .directory [("v.json", .file), ("u.json", .file)]

/-- The directory names the unit first. -/
theorem namesUnits_pageTree_d : NamesUnits pageTree "d" ["d/u.json", "d/v.json"] := by
  have found : pageTree.find "d" = .ok (.directory
      [("v.json", .file "".toUTF8), ("u.json", .file pageText.toUTF8)]) :=
    FileTree.find_of_get? ["d"] (by decide) rfl nofun
  have leads : lookAt pageTree "d" = .directory pageListing := by
    change pageTree.look "d" = .directory pageListing
    rw [FileTree.look, found]
    rfl
  have proper : pageListing.Proper :=
    .directory (by decide) (by decide) (by simp [Listing.Proper.file])
  have files : pageListing.unitFiles "d" = .ok [["v.json"], ["u.json"]] := by decide +kernel
  have walked := Listing.unitPaths_of_perm files (.swap ["u.json"] _ _) (by decide)
  exact .directory leads proper (proper.unitPaths_eq_ok_iff.mp walked) (by simp)

theorem resolves_pageTree_d :
    Resolves pageTree (.flags [] false) ["d"] {} ["d/u.json", "d/v.json"] where
  settled := rfl
  named := ⟨[["d/u.json", "d/v.json"]], .cons namesUnits_pageTree_d .nil, rfl⟩

theorem resolves_pageTree : Resolves pageTree (.flags [] false) ["d/u.json"] {} ["d/u.json"] where
  settled := rfl
  named := ⟨[["d/u.json"]], .cons (.file (lookAt_of_find find_pageTree_u) (by decide)) .nil, rfl⟩

/-- The line for the call. -/
def pageLine : String :=
  let object := Json.object
    [("column", .ofNat 5), ("file", .string "a"), ("line", .ofNat 2),
      ("message", .string (pageFinding ⟨6, 9⟩).message), ("span_end", .ofNat 9),
      ("span_start", .ofNat 6)]
  object.compact ++ "\n"

theorem join_findingLine_pageUnit :
    String.join ((findingsIn {} [pageUnit "f\nr = l()" ⟨6, 9⟩]).map (findingLine pageTree)) =
      pageLine := by
  have place : (LineIndex.ofText "f\nr = l()").position 6 = ⟨2, 5⟩ := by decide +kernel
  have placed : placeAt? pageTree (pageUnit "f\nr = l()" ⟨6, 9⟩) (pageFinding ⟨6, 9⟩) =
    some ⟨2, 5⟩ := congrArg some place
  rw [findingsIn_pageUnit, List.map_singleton, findingLine, placed, String.join_cons,
    String.join_nil, String.append_empty]
  rfl

theorem count_newline_pageLine : pageLine.toList.count '\n' = 1 := by
  rw [← join_findingLine_pageUnit, count_newline_join_findingLine, findingsIn_pageUnit]
  rfl

theorem not_namesUnits_empty (disk : FileTree) (files : List String) :
    ¬ NamesUnits disk "" files := by
  rw [← unitPaths_lookAt_eq_ok_iff]
  exact nofun

/-- The unit is read before the file that is none, although it is listed behind it: the line is
printed, and then the run fails. Alone, the unit is read to the end and its line counted; with a
path that names nothing, it is not read at all. -/
theorem run_lint_json_pageTree :
    let run (paths : List String) :=
      (runProgram ("lint" :: "--format" :: "json" :: paths) : ReaderM FileTree Run).run pageTree
    ((run ["d"]).stdout = pageLine ∧ (run ["d"]).status = 1) ∧
    ((run ["d/u.json"]).stdout = pageLine ∧ (run ["d/u.json"]).status = 1 ∧
      (run ["d/u.json"]).ending =
        .failed { message := "1 pagination diagnostic found in 1 unit(s)" }) ∧
    (run ["d/u.json", ""]).stdout = "" ∧ (run ["d/u.json", ""]).status = 1 := by
  intro run
  have spoken : pageLine ≠ "" := by
    intro silent
    have lines := count_newline_pageLine
    rw [silent] at lines
    cases lines
  refine ⟨?_, ?_, ?_⟩
  · have accepted : Invocation.ofArguments ["lint", "--format", "json", "d"] =
        .ok (.run 0 (.lint ["d"] .json (.flags [] false))) := by decide
    obtain ⟨stdout, status, -⟩ := (run_lint_json pageTree accepted).2 _ _ resolves_pageTree_d
    rw [unitsRead_pageTree, unitsRead_pageTree_v] at stdout status
    exact ⟨stdout.trans join_findingLine_pageUnit, status⟩
  · have accepted : Invocation.ofArguments ["lint", "--format", "json", "d/u.json"] =
        .ok (.run 0 (.lint ["d/u.json"] .json (.flags [] false))) := by decide
    obtain ⟨stdout, status, ending⟩ := (run_lint_json pageTree accepted).2 _ _ resolves_pageTree
    rw [unitsRead_pageTree] at stdout status ending
    have printed := stdout.trans join_findingLine_pageUnit
    rw [printed] at status ending
    rw [count_newline_pageLine] at ending
    exact ⟨printed, status.trans (if_neg fun silent => spoken silent.2), ending rfl spoken⟩
  · have accepted : Invocation.ofArguments ["lint", "--format", "json", "d/u.json", ""] =
        .ok (.run 0 (.lint ["d/u.json", ""] .json (.flags [] false))) := by decide
    exact (run_lint_json pageTree accepted).1 (.inr ⟨"", by simp, not_namesUnits_empty pageTree⟩)

end PaginationLint
