import Mathlib.Data.List.Basic
import PaginationLint.Lint.Basic
import PaginationLint.Proofs.Result.Origin
import PaginationLint.Proofs.Syntax.Handling

/-!
What the lint reports.

`candidates` lists, in the order of the source, every value that an assignment inside a function
gives to a target; `Unhandled` says when such a value has to be reported, and how. The main statement
is that the findings of a unit are what `Unhandled` makes of the candidates, one by one.
-/

namespace PaginationLint.Lint

open Relation (ReflTransGen)

/-! ### The values that are looked at -/

/-- A value and the target it is assigned to, with the file and the body of the declaration in which
the assignment stands. -/
structure Candidate where
  file : String
  body : Block
  target : Expr
  value : Expr

/-- The two sides of an assignment. -/
def assignment? : Node → Option (List Expr × List Expr)
  | .stmt (.assign targets values _ _) => some (targets, values)
  | _ => none

/-- The pairs of a target and a value at the same index. -/
def pairs (targets values : List Expr) : List (Expr × Expr) :=
  List.ofFn fun i : Fin (min targets.length values.length) =>
    (targets.get ⟨i, by omega⟩, values.get ⟨i, by omega⟩)

/-- The pairs of all assignments in a body, at whatever depth. -/
def bodyCandidates (file : String) (body : Block) : List Candidate :=
  (body.inner.filterMap assignment?).flatMap fun (targets, values) =>
    (pairs targets values).map fun (target, value) => ⟨file, body, target, value⟩

/-- The body of a function declaration that has one. -/
def declBody? : Decl → Option Block
  | .func f => f.body
  | .var _ _ _ => none

/-- The pairs of all function declarations of a file. -/
def fileCandidates (file : SourceFile) : List Candidate :=
  (file.decls.filterMap declBody?).flatMap (bodyCandidates file.path)

/-- Test files are looked at only where they are asked for. -/
def LookedAt (config : Config) (file : SourceFile) : Prop :=
  config.includeTests = true ∨ ¬ "_test.go".toList <:+ file.path.toList

instance (config : Config) (file : SourceFile) : Decidable (LookedAt config file) :=
  inferInstanceAs (Decidable (_ ∨ _))

/-- The pairs of all files of a unit that are looked at. -/
def candidates (u : ProgramUnit) (config : Config) : List Candidate :=
  (u.files.filter (LookedAt config ·)).flatMap fileCandidates

/-! ### The values that are reported -/

/-- The value is a call with an SDK result, its token fields and the variable that holds it are
known, nothing in the body reads one of these from that variable, and nothing calls a paginator. The
finding has the file of the assignment, the span of the call and a message about the call. -/
inductive Unhandled (types : TypeTable) (names : List String) (c : Candidate) : Diagnostic → Prop
  | call {callee : Expr} {args : List Expr} {type result : TypeId} {span place : Span}
      {holder : String} {fields : List String}
      (value : c.value = .call callee args (some type) span)
      (typed : types.resultType? type = some result)
      (applicable : types.applicableTokenFields result
        (CallSite.of types callee result).service names = fields)
      (paginated : fields ≠ [])
      (sdk : ∃ d, ReflTransGen types.FieldLeads (types.deref result) d ∧ types.DeclaredInSdk d)
      (target : c.target = .ident holder place)
      (kept : holder ≠ "_")
      (unread : ∀ n ∈ c.body.inner, ¬ n.ReadsToken holder fields)
      (unpaged : ∀ n ∈ c.body.inner, ¬ n.CallsPaginator) :
      Unhandled types names c
        ⟨"awspagination", c.file, span,
          Message.build fields (some holder) (CallSite.of types callee result)⟩

theorem boundName?_eq_some_iff {target : Expr} {holder : String} :
    boundName? target = some holder ↔ (∃ place, target = .ident holder place) ∧ holder ≠ "_" := by
  rw [boundName?, Option.filter_eq_some_iff, Expr.ident?_eq_some_iff]
  simp [isBlankName]

theorem handles_eq_false_iff {body : Block} {holder : String} {fields : List String} :
    body.handles holder fields = false ↔
      (∀ n ∈ body.inner, ¬ n.ReadsToken holder fields) ∧ ∀ n ∈ body.inner, ¬ n.CallsPaginator := by
  rw [← Bool.not_eq_true, Block.handles_iff]
  simp only [not_or, not_exists, not_and]

/-- A judgement is a finding iff the value has to be reported. The name of the function plays no
part in it. -/
theorem finding_judge_iff {scope : Scope} {target value : Expr} {d : Diagnostic} :
    (judge scope target value).bind Observation.finding? = some d ↔
      Unhandled scope.types scope.tokenFields ⟨scope.file, scope.body, target, value⟩ d := by
  constructor
  · intro h
    unfold judge at h
    split at h
    case h_2 => cases h
    rename_i callee args type span
    split at h
    · cases h
    rename_i result typed
    obtain ⟨type, rfl, typed⟩ := Option.bind_eq_some_iff.mp typed
    -- the tests of the lint, one after another: where one fails there is no finding
    dsimp only at h
    split at h
    · cases h
    rename_i paginated
    split at h
    · cases h
    rename_i sdk
    split at h
    · cases h
    rename_i holder bound
    split at h
    · cases h
    rename_i unhandled
    obtain ⟨⟨place, rfl⟩, kept⟩ := boundName?_eq_some_iff.mp bound
    obtain ⟨unread, unpaged⟩ := handles_eq_false_iff.mp (Bool.not_eq_true _ ▸ unhandled)
    obtain rfl := Option.some.inj h
    exact .call rfl typed rfl (by simpa using paginated)
      (TypeTable.isTrusted_iff.mp (by simpa using sdk)) rfl kept unread unpaged
  · rintro ⟨rfl, typed, rfl, paginated, sdk, rfl, kept, unread, unpaged⟩
    rename_i callee args type result span place holder
    have trusted : scope.types.isTrusted result = true := TypeTable.isTrusted_iff.mpr sdk
    have bound : boundName? (.ident holder place) = some holder :=
      boundName?_eq_some_iff.mpr ⟨⟨place, rfl⟩, kept⟩
    have unhandled := handles_eq_false_iff.mpr ⟨unread, unpaged⟩
    simp [judge, typed, trusted, bound, unhandled, paginated, Observation.finding?, analyzerName]

/-- The finding that a pair gives. -/
def report (types : TypeTable) (names : List String) (c : Candidate) : Option Diagnostic :=
  (judge ⟨types, names, c.file, "", c.body⟩ c.target c.value).bind Observation.finding?

theorem report_eq_some_iff {types : TypeTable} {names : List String} {c : Candidate}
    {d : Diagnostic} : report types names c = some d ↔ Unhandled types names c d :=
  finding_judge_iff

theorem finding_judge_eq (scope : Scope) (target value : Expr) :
    (judge scope target value).bind Observation.finding? =
      report scope.types scope.tokenFields ⟨scope.file, scope.body, target, value⟩ := by
  ext d
  rw [finding_judge_iff, report_eq_some_iff]

/-! ### From pairs to units -/

theorem pairs_eq_zip (targets values : List Expr) : pairs targets values = targets.zip values := by
  refine List.ext_getElem ?_ fun i _ _ => ?_
  · rw [pairs, List.length_ofFn, List.length_zip]
  · simp [pairs]

theorem judgeNode_eq_nil {scope : Scope} {n : Node} (h : assignment? n = none) :
    judgeNode scope n = [] := by
  unfold assignment? at h
  split at h
  · cases h
  · next other =>
    unfold judgeNode
    split
    · exact absurd rfl (other _ _ _ _)
    · rfl

theorem findings_judgeNode {scope : Scope} {n : Node} {targets values : List Expr}
    (h : assignment? n = some (targets, values)) :
    (judgeNode scope n).filterMap Observation.finding? =
      ((pairs targets values).map fun (target, value) =>
        (⟨scope.file, scope.body, target, value⟩ : Candidate)).filterMap
          (report scope.types scope.tokenFields) := by
  unfold assignment? at h
  split at h
  · obtain ⟨⟩ := h
    rw [judgeNode, pairs_eq_zip, List.filterMap_filterMap, List.filterMap_map]
    exact List.filterMap_congr fun p _ => finding_judge_eq scope p.1 p.2
  · cases h

/-- Nodes of a body give what the pairs of their assignments give. -/
theorem findings_nodes (scope : Scope) : ∀ ns : List Node,
    (ns.flatMap (judgeNode scope)).filterMap Observation.finding? =
      ((ns.filterMap assignment?).flatMap fun (targets, values) =>
        (pairs targets values).map fun (target, value) =>
          (⟨scope.file, scope.body, target, value⟩ : Candidate)).filterMap
            (report scope.types scope.tokenFields)
  | [] => rfl
  | n :: ns => by
    rw [List.flatMap_cons, List.filterMap_append, findings_nodes scope ns]
    cases h : assignment? n with
    | none => rw [judgeNode_eq_nil h, List.filterMap_cons_none h, List.filterMap_nil, List.nil_append]
    | some sides =>
      rw [findings_judgeNode h, List.filterMap_cons_some h, List.flatMap_cons,
        List.filterMap_append]

theorem findings_outside (file : String) (ns : List Node) :
    (ns.flatMap (judgeOutside file)).filterMap Observation.finding? = [] := by
  refine List.filterMap_eq_nil_iff.mpr fun o ho => ?_
  obtain ⟨n, _, hn⟩ := List.mem_flatMap.mp ho
  unfold judgeOutside at hn
  split at hn
  · rw [List.mem_singleton.mp hn]
    rfl
  · cases hn

/-- A declaration gives what the pairs in its body give; one without a body gives nothing. -/
theorem findings_decl (types : TypeTable) (names : List String) (file : String) (decl : Decl) :
    (observeDecl types names file decl).filterMap Observation.finding? =
      ((declBody? decl).toList.flatMap (bodyCandidates file)).filterMap (report types names) := by
  cases decl with
  | func f =>
    obtain ⟨name, receiver, body, span⟩ := f
    cases body with
    | none => rfl
    | some body =>
      have h := findings_nodes ⟨types, names, file, name.name, body⟩ body.inner
      simpa [observeDecl, declBody?, bodyCandidates, Block.nodes_eq_inner] using h
  | var names values span => exact findings_outside file _

theorem findings_file (types : TypeTable) (config : Config) (file : SourceFile) :
    (file.decls.flatMap (observeDecl types config.tokenFields file.path)).filterMap
        Observation.finding? =
      (fileCandidates file).filterMap (report types config.tokenFields) := by
  rw [fileCandidates, List.filterMap_flatMap, List.filterMap_flatMap]
  induction file.decls with
  | nil => rfl
  | cons decl decls ih =>
    rw [List.flatMap_cons, findings_decl, ih]
    cases h : declBody? decl with
    | none => simp [h]
    | some body => simp [h]

theorem skipped_eq_false_iff (config : Config) (file : SourceFile) :
    (!config.includeTests && isTestFile file.path) = false ↔ LookedAt config file := by
  have test : isTestFile file.path = true ↔ "_test.go".toList <:+ file.path.toList :=
    List.isSuffixOf_iff_suffix
  rw [LookedAt, ← test]
  cases config.includeTests <;> simp

theorem findings_observeFile (types : TypeTable) (config : Config) (file : SourceFile) :
    (observeFile types config file).filterMap Observation.finding? =
      if LookedAt config file then
        (fileCandidates file).filterMap (report types config.tokenFields)
      else [] := by
  rw [observeFile]
  by_cases looked : LookedAt config file
  · rw [if_pos looked, (skipped_eq_false_iff config file).mpr looked, ← findings_file]
    rfl
  · have skipped := mt (skipped_eq_false_iff config file).mp looked
    rw [Bool.not_eq_false] at skipped
    rw [if_neg looked, skipped]
    rfl

/-- Findings are exact: `report` gives `d` for a pair iff `Unhandled` does, and the findings of a
unit are the reports of its pairs, in the order of the source. -/
theorem lint_eq_filterMap_candidates (u : ProgramUnit) (config : Config) :
    ∃ report : Candidate → Option Diagnostic,
      (∀ c d, report c = some d ↔ Unhandled u.types config.tokenFields c d) ∧
        lint u config = (candidates u config).filterMap report := by
  refine ⟨report u.types config.tokenFields, fun _ _ => report_eq_some_iff, ?_⟩
  rw [lint, observe, candidates, List.filterMap_flatMap, List.filterMap_flatMap]
  induction u.files with
  | nil => rfl
  | cons file files ih =>
    rw [List.flatMap_cons, ih, findings_observeFile]
    by_cases looked : LookedAt config file
    · simp [looked]
    · simp [looked]

end PaginationLint.Lint
