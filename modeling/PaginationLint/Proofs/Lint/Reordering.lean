import PaginationLint.Proofs.Lint.Simulation
import PaginationLint.Proofs.Syntax.Renaming
import PaginationLint.Proofs.Types.Reordering

/-!
Type ids are only identities.

Reordering the type table of a unit, with every type id in its types and in its syntax renamed
accordingly, changes no finding.
-/

namespace PaginationLint

/-- The same declaration with other type ids in it. -/
def Decl.rename (f : TypeId → TypeId) : Decl → Decl
  | .func g => .func { g with body := g.body.map (Block.rename f) }
  | .var names values span => .var names (values.map (Expr.rename f)) span

/-- The same file with other type ids in it. -/
def SourceFile.rename (f : TypeId → TypeId) (file : SourceFile) : SourceFile :=
  { file with decls := file.decls.map (Decl.rename f) }

/-- The same unit with its types in another order. -/
def ProgramUnit.reorder (u : ProgramUnit) (p : Equiv.Perm u.types.Inside) : ProgramUnit :=
  { u with
    types := u.types.reorder p
    files := u.files.map (SourceFile.rename (TypeTable.extend p)) }

namespace Lint

variable {t t' : TypeTable} {f : TypeId → TypeId} {names : List String}
  {file function : String} {body : Block}

theorem boundName?_rename (target : Expr) : boundName? (target.rename f) = boundName? target := by
  cases target <;> rfl

theorem method_rename (callee : Expr) (r r' : TypeId) :
    (CallSite.of t' (callee.rename f) r').method = (CallSite.of t callee r).method := by
  cases callee <;> rfl

theorem judge_rename (h : TypeTable.Renamed t t' f) (target value : Expr) :
    judge ⟨t', names, file, function, body.rename f⟩ (target.rename f) (value.rename f) =
      judge ⟨t, names, file, function, body⟩ target value := by
  cases value with
  | call callee args type span =>
    refine judge_call_eq h.simulation (fun _ _ => body.handles_rename f _ _)
      (boundName?_rename target) (method_rename callee) ?_ (fun _ _ => Set.mem_univ _) span
    cases type with
    | none => rfl
    | some type => exact h.resultType?_eq type
  | _ => rfl

theorem judgeNode_rename (h : TypeTable.Renamed t t' f) (n : Node) :
    judgeNode ⟨t', names, file, function, body.rename f⟩ (n.rename f) =
      judgeNode ⟨t, names, file, function, body⟩ n := by
  cases n with
  | expr e => rfl
  | stmt s =>
    cases s with
    | assign targets values define span =>
      simp only [Node.rename, Stmt.rename, judgeNode, renameExprs_eq, List.zip_map,
        List.filterMap_map]
      exact List.filterMap_congr fun pair _ => judge_rename h pair.1 pair.2
    | _ => rfl

theorem judgeOutside_rename (n : Node) : judgeOutside file (n.rename f) = judgeOutside file n := by
  cases n with
  | expr e => rfl
  | stmt s => cases s <;> rfl

/-- A declaration shows the same. -/
theorem observeDecl_rename (h : TypeTable.Renamed t t' f) (decl : Decl) :
    observeDecl t' names file (decl.rename f) = observeDecl t names file decl := by
  cases decl with
  | func g =>
    obtain ⟨name, receiver, body, span⟩ := g
    cases body with
    | none => rfl
    | some body =>
      simp only [Decl.rename, observeDecl, Option.map_some, Block.nodes_rename, List.flatMap_map]
      exact List.flatMap_congr fun n _ => judgeNode_rename h n
  | var names values span =>
    simp only [Decl.rename, observeDecl, List.flatMap_map, List.flatMap_assoc]
    refine List.flatMap_congr fun e _ => ?_
    rw [Expr.nodes, ← Node.rename, Node.nodes_rename, List.flatMap_map]
    exact List.flatMap_congr fun n _ => judgeOutside_rename n

theorem observeFile_rename (h : TypeTable.Renamed t t' f) (config : Config) (file : SourceFile) :
    observeFile t' config (file.rename f) = observeFile t config file := by
  rw [observeFile, observeFile, SourceFile.rename, List.flatMap_map]
  congr 1
  exact List.flatMap_congr fun decl _ => observeDecl_rename h decl

/-- Findings do not depend on the order of the type table. -/
theorem lint_reorder (u : ProgramUnit) (config : Config) (p : Equiv.Perm u.types.Inside) :
    lint (u.reorder p) config = lint u config := by
  have same : observe (u.reorder p) config = observe u config := by
    rw [observe, observe, ProgramUnit.reorder, List.flatMap_map]
    exact List.flatMap_congr fun file _ =>
      observeFile_rename (TypeTable.renamed_reorder p) config file
  rw [lint, lint, same]

end Lint

end PaginationLint
