import PaginationLint.Proofs.Command.JsonLines

/-!
The format of findings and the exit status.

As JSON, every finding can be shown. As text, a finding is shown with the source around its span, so
that a span beyond the end of a known source text ends the run. Main statement: the exit statuses of
both formats are equal iff no finding in the units that were read has such a span.
-/

namespace PaginationLint

variable {ρ : Type} [MonadDisk (ReaderM ρ)]

/-! ### Findings that can be shown -/

theorem byteLength_toList (text : String) : byteLength text.toList = text.utf8ByteSize := by
  have sum : ∀ cs : List Char, byteLength cs = (String.ofList cs).utf8ByteSize := by
    intro cs
    induction cs with
    | nil => rfl
    | cons c cs ih => simp [byteLength, ih, String.utf8ByteSize_ofList]
  rw [sum, String.ofList_toList]

/-- Does a span end in a text, or one byte behind it at most? -/
def Span.EndsWithin (span : Span) (text : String) : Prop :=
  span.start.toNat + span.length ≤ text.utf8ByteSize + 1

instance (span : Span) (text : String) : Decidable (span.EndsWithin text) :=
  inferInstanceAs (Decidable (_ ≤ _))

theorem isSome_around?_iff {text : String} {span : Span} :
    (Snippet.around? text.toList span).isSome ↔ span.EndsWithin text := by
  rw [Snippet.around?, byteLength_toList, lastByte, Span.EndsWithin]
  split
  next beyond =>
    simp only [Option.isSome_none, Bool.false_eq_true, false_iff]
    omega
  next within =>
    simp only [Option.isSome_some, true_iff]
    omega

theorem canShow_text_iff (disk : ρ) (u : ProgramUnit) (d : Diagnostic) :
    canShow disk .text (u, d) = true ↔
      ∀ text, sourceAt? disk u d = some text → d.span.EndsWithin text := by
  have shown : canShow disk .text (u, d) = (d.toText? (sourceAt? disk u d)).isSome := by
    rw [canShow, showFinding]
    cases d.toText? (sourceAt? disk u d) <;> rfl
  rw [shown]
  cases sourceAt? disk u d with
  | none => simp [Diagnostic.toText?]
  | some text =>
    simp only [Diagnostic.toText?, Diagnostic.report?, snippet?, Option.isSome_map,
      isSome_around?_iff, Option.some.injEq, forall_eq']

theorem all_canShow_text_iff (disk : ρ) (findings : List (ProgramUnit × Diagnostic)) :
    findings.all (canShow disk .text) = true ↔ ∀ u d, (u, d) ∈ findings →
      ∀ source, sourceAt? disk u d = some source → d.span.EndsWithin source := by
  simp only [List.all_eq_true, Prod.forall, canShow_text_iff]

/-! ### The exit status -/

/-- A run that prints text ends like the one that prints JSON, unless it crashes. -/
theorem status_lintUnits_text (config : Config) (units : Nat) (disk : ρ) (files : List String) :
    ((lintUnits .text config units 0 files : ReaderM ρ Run).run disk).status =
      if (findingsIn config (unitsRead disk files)).all (canShow disk .text) then
        ((lintUnits .json config units 0 files : ReaderM ρ Run).run disk).status
      else 101 := by
  rw [Run.status, Run.status, ending_lintUnits_json, ending_lintUnits, Nat.zero_add]
  split <;> rfl

/-- The exit status depends on the format iff a finding that was made ends beyond its source text;
the run that shows it as text then crashes. -/
theorem status_text_eq_status_json_iff (disk : ρ) {arguments arguments' paths : List String}
    {verbosity verbosity' : Nat} {settings : SettingsSource}
    (text : Invocation.ofArguments arguments =
      .ok (.run verbosity (.lint paths .text settings)))
    (json : Invocation.ofArguments arguments' =
      .ok (.run verbosity' (.lint paths .json settings))) :
    let shown := (runProgram arguments : ReaderM ρ Run).run disk
    let printed := (runProgram arguments' : ReaderM ρ Run).run disk
    (shown.status = printed.status ↔
      ∀ config files, Resolves disk settings paths config files →
        ∀ u d, (u, d) ∈ findingsIn config (unitsRead disk files) →
          ∀ source, sourceAt? disk u d = some source → d.span.EndsWithin source) ∧
    (printed.status = 0 ∨ printed.status = 1) ∧
    (shown.status ≠ printed.status → shown.status = 101) := by
  intro shown printed
  by_cases resolvable : ∃ config files, Resolves disk settings paths config files
  · obtain ⟨config, files, resolves⟩ := resolvable
    have hprinted : printed.status = _ :=
      congrArg Ending.status (run_lint_of_resolves json resolves).2
    have hshown : shown.status =
        ((lintUnits .text config files.length 0 files : ReaderM ρ Run).run disk).status :=
      congrArg Ending.status (run_lint_of_resolves text resolves).2
    have bounded : printed.status = 0 ∨ printed.status = 1 := by
      rw [hprinted, ← Run.status, status_lintUnits_json]
      exact ite_eq_or_eq _ _ _
    have within : (findingsIn config (unitsRead disk files)).all (canShow disk .text) = true ↔
        ∀ config files, Resolves disk settings paths config files →
          ∀ u d, (u, d) ∈ findingsIn config (unitsRead disk files) →
            ∀ source, sourceAt? disk u d = some source → d.span.EndsWithin source := by
      rw [all_canShow_text_iff]
      constructor
      · intro fits config' files' resolves'
        obtain ⟨rfl, rfl⟩ := resolves.unique resolves'
        exact fits
      · exact fun fits => fits config files resolves
    rw [← within]
    rw [status_lintUnits_text] at hshown
    by_cases fits : (findingsIn config (unitsRead disk files)).all (canShow disk .text) = true
    · have same : shown.status = printed.status := by rw [hshown, if_pos fits, hprinted, Run.status]
      exact ⟨⟨fun _ => fits, fun _ => same⟩, bounded, fun differ => absurd same differ⟩
    · -- the status of a crash is none that JSON ends with
      rw [if_neg fits] at hshown
      exact ⟨⟨fun same => by omega, fun fits' => absurd fits' fits⟩, bounded, fun _ => hshown⟩
  · -- both runs end before a format matters
    have unresolved : ∀ config files, ¬ Resolves disk settings paths config files :=
      fun config files resolves => resolvable ⟨config, files, resolves⟩
    obtain ⟨-, report, failed⟩ := run_lint_of_not_resolves text unresolved
    obtain ⟨-, report', failed'⟩ := run_lint_of_not_resolves json unresolved
    have one : shown.status = 1 := congrArg Ending.status failed
    have one' : printed.status = 1 := congrArg Ending.status failed'
    rw [one, one']
    exact ⟨⟨fun _ config files resolves => absurd resolves (unresolved config files), fun _ => rfl⟩,
      .inr rfl, fun differ => absurd rfl differ⟩

/-- A call inside its source text is shown and printed. -/
theorem status_text_eq_status_json_pageTree :
    (pageUnit "f\nr = l()" ⟨6, 9⟩, pageFinding ⟨6, 9⟩) ∈
      findingsIn {} (unitsRead pageTree ["d/u.json"]) ∧
    Span.EndsWithin ⟨6, 9⟩ "f\nr = l()" ∧
    ((runProgram ["lint", "d/u.json"] : ReaderM FileTree Run).run pageTree).status =
      ((runProgram ["lint", "--format", "json", "d/u.json"] :
        ReaderM FileTree Run).run pageTree).status := by
  have text : Invocation.ofArguments ["lint", "d/u.json"] =
      .ok (.run 0 (.lint ["d/u.json"] .text (.flags [] false))) := by decide
  have json : Invocation.ofArguments ["lint", "--format", "json", "d/u.json"] =
      .ok (.run 0 (.lint ["d/u.json"] .json (.flags [] false))) := by decide
  have findings : findingsIn {} (unitsRead pageTree ["d/u.json"]) =
      [(pageUnit "f\nr = l()" ⟨6, 9⟩, pageFinding ⟨6, 9⟩)] := by
    rw [unitsRead_pageTree]
    exact findingsIn_pageUnit _ _
  have within : Span.EndsWithin ⟨6, 9⟩ "f\nr = l()" := by decide
  refine ⟨findings ▸ List.mem_cons_self, within,
    (status_text_eq_status_json_iff pageTree text json).1.mpr ?_⟩
  intro config files resolves u d finding source known
  obtain ⟨rfl, rfl⟩ := resolves_pageTree.unique resolves
  rw [findings] at finding
  obtain ⟨rfl, rfl⟩ := Prod.mk.inj (List.mem_singleton.mp finding)
  obtain ⟨⟩ := known
  exact within

/-! ### A span beyond the end -/

/-- The text of a unit with the call at byte nine of an empty source text. -/
def staleText : String :=
  "[\"\",[[\"named\",\"\",\"aws-sdk-go-v2/service/s\",1],[\"struct\",[[\"NextToken\",2]]]]," ++
  "[[\"a\",\"\",[[\"func\",[\"f\"],null,[[[\"assign\",[[\"ident\",\"r\"]]," ++
  "[[\"call\",[\"ident\",\"l\"],[],0,[9,9]]]]]]]]]]]"

def staleTree : FileTree := .directory [("u.json", .file staleText.toUTF8)]

theorem ofText_staleText : Wire.ofText staleText = .ok (pageUnit "" ⟨9, 9⟩) :=
  ofText_of_decodeText (by decide +kernel)

theorem find_staleTree : staleTree.find "u.json" = .ok (.file staleText.toUTF8) :=
  FileTree.find_of_get? ["u.json"] (by decide) rfl nofun

theorem resolves_staleTree :
    Resolves staleTree (.flags [] false) ["u.json"] {} ["u.json"] where
  settled := rfl
  named := ⟨[["u.json"]], .cons (.file (lookAt_of_find find_staleTree) (by decide)) .nil, rfl⟩

theorem unitsRead_staleTree : unitsRead staleTree ["u.json"] = [pageUnit "" ⟨9, 9⟩] :=
  unitsRead_cons_of_some (unitAt?_of_find find_staleTree ofText_staleText)

/-- A span beyond the end is printed, but cannot be shown. -/
theorem status_text_ne_status_json_staleTree :
    ((runProgram ["lint", "u.json"] : ReaderM FileTree Run).run staleTree).status = 101 ∧
      ((runProgram ["lint", "--format", "json", "u.json"] :
        ReaderM FileTree Run).run staleTree).status = 1 := by
  have text : Invocation.ofArguments ["lint", "u.json"] =
      .ok (.run 0 (.lint ["u.json"] .text (.flags [] false))) := by decide
  have json : Invocation.ofArguments ["lint", "--format", "json", "u.json"] =
      .ok (.run 0 (.lint ["u.json"] .json (.flags [] false))) := by decide
  have findings : findingsIn {} (unitsRead staleTree ["u.json"]) =
      [(pageUnit "" ⟨9, 9⟩, pageFinding ⟨9, 9⟩)] := by
    rw [unitsRead_staleTree, findingsIn_pageUnit]
  constructor
  · have hidden : ¬ (findingsIn {} (unitsRead staleTree ["u.json"])).all
        (canShow staleTree .text) = true := by
      rw [findings, all_canShow_text_iff]
      intro fits
      have within : Span.EndsWithin ⟨9, 9⟩ "" := fits _ _ List.mem_cons_self "" rfl
      exact absurd within (by decide)
    have ending := congrArg Ending.status (run_lint_of_resolves text resolves_staleTree).2
    exact ending.trans ((status_lintUnits_text _ _ _ _).trans (if_neg hidden))
  · have complete : ["u.json"].findSome? (failureAt? staleTree) = none := by
      rw [findSome?_failureAt?_eq_none_iff, unitsRead_staleTree]
      rfl
    have ending := congrArg Ending.status (run_lint_of_resolves json resolves_staleTree).2
    rw [ending_lintUnits_json, complete, findings] at ending
    exact ending

end PaginationLint
