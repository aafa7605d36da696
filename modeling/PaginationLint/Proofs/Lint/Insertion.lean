import Mathlib.Data.List.Forall2
import PaginationLint.Proofs.Lint.Exactness
import PaginationLint.Proofs.Syntax.Insertion

/-!
Statements without assignments give no findings.

Statements that are put into a function change two things: what is assigned there, and what handles
pagination there. If they assign nothing, the same values are judged as before, and what handled
pagination still does. The main statement is that the findings afterwards are among the findings
before, in the same order.
-/

namespace PaginationLint

/-- What a declaration becomes when statements are put into its body. -/
def Decl.insertions (new : List Stmt) : Decl → List Decl
  | .func f =>
    (f.body.toList.flatMap (Block.insertions new)).map fun body =>
      .func { f with body := some body }
  | .var _ _ _ => []

/-- What a file becomes when statements are put into one of its functions. -/
def SourceFile.insertions (new : List Stmt) (file : SourceFile) : List SourceFile :=
  (oneReplaced (Decl.insertions new) file.decls).map fun decls => { file with decls := decls }

/-- What a unit becomes when statements are put into one of its functions. -/
def ProgramUnit.insertions (new : List Stmt) (u : ProgramUnit) : List ProgramUnit :=
  (oneReplaced (SourceFile.insertions new) u.files).map fun files => { u with files := files }

/-- The statement lists in the body of a declaration. -/
def Decl.stmtLists : Decl → List (List Stmt)
  | .func f => f.body.toList.flatMap Block.stmtLists
  | .var _ _ _ => []

/-- The statement lists in the functions of a unit. -/
def ProgramUnit.stmtLists (u : ProgramUnit) : List (List Stmt) :=
  u.files.flatMap fun file => file.decls.flatMap Decl.stmtLists

theorem Decl.length_insertions {new : List Stmt} (decl : Decl) :
    (decl.insertions new).length = positionCount decl.stmtLists := by
  cases decl with
  | var => rfl
  | func f =>
    rw [insertions, stmtLists, List.length_map]
    exact length_flatMap_eq_positionCount fun b _ => b.length_insertions

theorem ProgramUnit.length_insertions {new : List Stmt} (u : ProgramUnit) :
    (u.insertions new).length = positionCount u.stmtLists := by
  rw [insertions, stmtLists, List.length_map, length_oneReplaced]
  refine length_flatMap_eq_positionCount fun file _ => ?_
  rw [SourceFile.insertions, List.length_map, length_oneReplaced]
  exact length_flatMap_eq_positionCount fun decl _ => decl.length_insertions

theorem CallSite.of_congr {types : TypeTable} {callee callee' : Expr}
    (same : callee'.member? = callee.member?) (result : TypeId) :
    CallSite.of types callee' result = CallSite.of types callee result := by
  have method : ∀ callee, (CallSite.of types callee result).method = callee.member? := by
    intro callee
    cases callee <;> rfl
  rw [CallSite.mk.injEq]
  exact ⟨(method callee').trans (same.trans (method callee).symm), rfl, rfl⟩

namespace Lint

variable {types : TypeTable} {names : List String} {file : String} {new : List Stmt}

/-- A value that has to be reported has to be reported too where less is handled. -/
theorem Unhandled.of_handles {c c' : Candidate} {d : Diagnostic} (h : Unhandled types names c' d)
    (place : c'.file = c.file) (target : c'.target.face = c.target.face)
    (value : c'.value.face = c.value.face)
    (handles : ∀ holder fields, c.body.handles holder fields = true →
      c'.body.handles holder fields = true) : Unhandled types names c d := by
  obtain ⟨call, typed, applicable, paginated, sdk, ident, kept, unread, unpaged⟩ := h
  rename_i callee args type result span spot holder fields
  -- what is seen of a call and of a name tells their form, up to what plays no part
  rw [call] at value
  obtain ⟨callee', args', call', member⟩ := Expr.face_eq_call_iff.mp value.symm
  rw [ident] at target
  obtain ⟨spot', ident'⟩ := Expr.face_eq_ident_iff.mp target.symm
  have site : CallSite.of types callee' result = CallSite.of types callee result :=
    CallSite.of_congr member result
  have unhandled : c.body.handles holder fields = false := by
    rw [← Bool.not_eq_true]
    intro handled
    have free := handles_eq_false_iff.mpr ⟨unread, unpaged⟩
    rw [handles holder fields handled] at free
    cases free
  obtain ⟨unread, unpaged⟩ := handles_eq_false_iff.mp unhandled
  rw [← site, place]
  exact .call call' typed (site ▸ applicable) paginated sdk ident' kept unread unpaged

/-! ### One body -/

/-- The targets and values of all assignments in a body. -/
def bodyPairs (body : Block) : List (Expr × Expr) :=
  (body.inner.filterMap assignment?).flatMap fun (targets, values) => pairs targets values

theorem bodyCandidates_eq (file : String) (body : Block) :
    bodyCandidates file body =
      (bodyPairs body).map fun (target, value) => ⟨file, body, target, value⟩ := by
  rw [bodyCandidates, bodyPairs, List.map_flatMap]

/-- The two sides of an assignment, as far as they are seen. -/
def viewedAssignment? : View → Option (List Face × List Face)
  | .assign targets values => some (targets, values)
  | _ => none

theorem viewedAssignment?_view (n : Node) :
    viewedAssignment? n.view = (assignment? n).map fun (targets, values) =>
      (targets.map Expr.face, values.map Expr.face) := by
  cases n with
  | expr e => rfl
  | stmt s => cases s <;> rfl

theorem map_face_bodyPairs (body : Block) :
    (bodyPairs body).map (Prod.map Expr.face Expr.face) =
      ((body.nodes.map Node.view).filterMap viewedAssignment?).flatMap fun (targets, values) =>
        targets.zip values := by
  have sides : (body.nodes.map Node.view).filterMap viewedAssignment? =
      (body.inner.filterMap assignment?).map fun (targets, values) =>
        (targets.map Expr.face, values.map Expr.face) := by
    rw [List.filterMap_map, List.map_filterMap, Block.nodes_eq_inner]
    exact List.filterMap_congr fun n _ => viewedAssignment?_view n
  rw [sides, bodyPairs, List.map_flatMap, List.flatMap_map]
  refine List.flatMap_congr fun (targets, values) _ => ?_
  dsimp only
  rw [pairs_eq_zip, List.zip_map]

/-- New statements without assignments leave the same values to judge. -/
theorem map_face_bodyPairs_insertion {b b' : Block} (mem : b' ∈ b.insertions new)
    (plain : ∀ n ∈ stmtsInner new, assignment? n = none) :
    (bodyPairs b').map (Prod.map Expr.face Expr.face) =
      (bodyPairs b).map (Prod.map Expr.face Expr.face) := by
  have nothing : ((stmtsInner new).map Node.view).filterMap viewedAssignment? = [] := by
    rw [List.filterMap_map, List.filterMap_eq_nil_iff]
    intro n hn
    rw [Function.comp_apply, viewedAssignment?_view, plain n hn, Option.map_none]
  obtain ⟨before, after, old, young⟩ := Block.views_insertion mem
  rw [map_face_bodyPairs, map_face_bodyPairs, old, young, List.filterMap_append,
    List.filterMap_append, nothing, List.append_nil, List.filterMap_append]

/-- What handles pagination still does when statements are put in. -/
theorem handles_insertion {b b' : Block} (mem : b' ∈ b.insertions new) (holder : String)
    (fields : List String) (h : b.handles holder fields = true) :
    b'.handles holder fields = true := by
  obtain ⟨before, after, old, young⟩ := Block.views_insertion mem
  rw [Block.handles_eq_views, old, List.any_append, Bool.or_eq_true] at h
  rw [Block.handles_eq_views, young, List.any_append, List.any_append, Bool.or_eq_true,
    Bool.or_eq_true]
  exact h.imp_left .inl

theorem filterMap_sublist_filterMap {α β γ : Type} {f : α → Option γ} {g : β → Option γ}
    {as : List α} {bs : List β}
    (h : List.Forall₂ (fun a b => ∀ d, f a = some d → g b = some d) as bs) :
    (as.filterMap f).Sublist (bs.filterMap g) := by
  induction h with
  | nil => exact .slnil
  | @cons a b as bs hab _ ih =>
    cases found : f a with
    | none =>
      rw [List.filterMap_cons_none found, List.filterMap_cons]
      split
      · exact ih
      · exact ih.cons _
    | some d =>
      rw [List.filterMap_cons_some found, List.filterMap_cons_some (hab d found)]
      exact ih.cons_cons d

/-- A body that shows the same assignments and handles at least as much gives no further findings. -/
theorem findings_sublist_of_faces {b b' : Block}
    (faces : (bodyPairs b').map (Prod.map Expr.face Expr.face) =
      (bodyPairs b).map (Prod.map Expr.face Expr.face))
    (handles : ∀ holder fields, b.handles holder fields = true →
      b'.handles holder fields = true) :
    ((bodyCandidates file b').filterMap (report types names)).Sublist
      ((bodyCandidates file b).filterMap (report types names)) := by
  rw [← List.forall₂_eq_eq_eq, List.forall₂_map_left_iff, List.forall₂_map_right_iff] at faces
  rw [bodyCandidates_eq, bodyCandidates_eq, List.filterMap_map, List.filterMap_map]
  refine filterMap_sublist_filterMap (faces.imp fun p' p same d found => ?_)
  obtain ⟨target, value⟩ := Prod.mk.inj same
  have unhandled : Unhandled types names ⟨file, b', p'.1, p'.2⟩ d := report_eq_some_iff.mp found
  exact report_eq_some_iff.mpr (unhandled.of_handles rfl target value handles)

/-- One body gives no findings that it did not give before. -/
theorem findings_body_sublist {b b' : Block} (mem : b' ∈ b.insertions new)
    (plain : ∀ n ∈ stmtsInner new, assignment? n = none) :
    ((bodyCandidates file b').filterMap (report types names)).Sublist
      ((bodyCandidates file b).filterMap (report types names)) :=
  findings_sublist_of_faces (map_face_bodyPairs_insertion mem plain) (handles_insertion mem)

/-! ### From bodies to units -/

theorem flatMap_sublist_of_oneReplaced {α β : Type} {alternatives : α → List α} {f : α → List β}
    (h : ∀ a, ∀ a' ∈ alternatives a, (f a').Sublist (f a)) {as as' : List α}
    (mem : as' ∈ oneReplaced alternatives as) : (as'.flatMap f).Sublist (as.flatMap f) := by
  obtain ⟨before, a, a', after, rfl, ha, rfl⟩ := mem_oneReplaced_iff.mp mem
  rw [List.flatMap_append, List.flatMap_append, List.flatMap_cons, List.flatMap_cons]
  exact ((h a a' ha).append_right _).append_left _

theorem findings_decl_sublist (plain : ∀ n ∈ stmtsInner new, assignment? n = none) (decl : Decl)
    (decl' : Decl) (mem : decl' ∈ decl.insertions new) :
    ((observeDecl types names file decl').filterMap Observation.finding?).Sublist
      ((observeDecl types names file decl).filterMap Observation.finding?) := by
  cases decl with
  | var => cases mem
  | func f =>
    obtain ⟨b', hb', rfl⟩ := List.mem_map.mp mem
    obtain ⟨b, hb, inserted⟩ := List.mem_flatMap.mp hb'
    have body : f.body = some b := Option.mem_toList.mp hb
    rw [findings_decl, findings_decl]
    simpa [declBody?, body] using findings_body_sublist inserted plain

theorem findings_file_sublist {config : Config}
    (plain : ∀ n ∈ stmtsInner new, assignment? n = none) (file file' : SourceFile)
    (mem : file' ∈ file.insertions new) :
    ((observeFile types config file').filterMap Observation.finding?).Sublist
      ((observeFile types config file).filterMap Observation.finding?) := by
  obtain ⟨decls, hdecls, rfl⟩ := List.mem_map.mp mem
  rw [observeFile, observeFile]
  dsimp only
  split
  · exact List.Sublist.refl _
  · rw [List.filterMap_flatMap, List.filterMap_flatMap]
    exact flatMap_sublist_of_oneReplaced (findings_decl_sublist plain) hdecls

/-- Statements without assignments can be put in at any position of any statement list in a
function. They give no new findings, and the findings that stay are the same and in the same
order. -/
theorem lint_sublist_of_insertion (new : List Stmt)
    (plain : ∀ n ∈ stmtsInner new, assignment? n = none) (u : ProgramUnit) (config : Config) :
    (u.insertions new).length = positionCount u.stmtLists ∧
      ∀ u' ∈ u.insertions new, (lint u' config).Sublist (lint u config) := by
  refine ⟨u.length_insertions, fun u' mem => ?_⟩
  obtain ⟨files, hfiles, rfl⟩ := List.mem_map.mp mem
  rw [lint, lint, observe, observe, List.filterMap_flatMap, List.filterMap_flatMap]
  exact flatMap_sublist_of_oneReplaced (findings_file_sublist plain) hfiles

/-- A listing in a function literal, with more statements behind it. -/
def listingIn (rest : List Stmt) : ProgramUnit where
  types := ⟨#[.named "ListObjectsV2Output" (some "github.com/aws/aws-sdk-go-v2/service/s3") ⟨1⟩,
    .struct [⟨"NextContinuationToken", ⟨2⟩, false⟩]]⟩
  files := [{ path := "a.go", decls := [.func { name := { name := "list" }, body := some (.mk
    [.deferred (.funcLit (.mk (.assign [.ident "out" {}]
      [.call (.ident "fetch" {}) [] (some ⟨0⟩) {}] true {} :: rest) {}) {}) {}] {}) }] }]

/-- The token is read behind the listing. -/
theorem lint_sublist_of_insertion_listingIn :
    (lint (listingIn [.expr (.selector (.ident "out" {}) ⟨"NextContinuationToken", {}⟩ {})])
      {}).Sublist (lint (listingIn []) {}) :=
  (lint_sublist_of_insertion
    [.expr (.selector (.ident "out" {}) ⟨"NextContinuationToken", {}⟩ {})]
    (by decide) (listingIn []) {}).2 _
    (by simp [listingIn, ProgramUnit.insertions, oneReplaced, SourceFile.insertions,
      Decl.insertions, Block.insertions, stmtsInsertions, Stmt.insertions, Expr.insertions])

end Lint

end PaginationLint
