import PaginationLint.Lint.Basic
import PaginationLint.Proofs.Result.Simulation
import PaginationLint.Proofs.Syntax.Preorder

/-!
Judgements in tables that answer alike.

A call is judged alike in two tables if the one simulates the other, the types of its result
correspond, the callees have the same method, the targets bind the same variable and the bodies
handle the same. Where all values of a unit are judged alike, its findings are the same.
-/

namespace PaginationLint

/-- A message tells of a call only its method and whether its service is known. -/
theorem Message.build_congr {site site' : CallSite} (method : site'.method = site.method)
    (service : site'.service = site.service) (fields : List String) (holder : Option String) :
    Message.build fields holder site' = Message.build fields holder site := by
  rw [build, build, paginatorPhrase, paginatorPhrase, method, service]

namespace Lint

variable {t t' : TypeTable} {f : TypeId → TypeId} {ids : Set TypeId} {names : List String}
  {file function : String} {body body' : Block} {target target' callee callee' : Expr}
  {args args' : List Expr} {type type' : Option TypeId}

theorem judge_call_eq (sim : TypeTable.Simulation t t' f ids)
    (handles : ∀ holder fields, body'.handles holder fields = body.handles holder fields)
    (bound : boundName? target' = boundName? target)
    (method : ∀ r r', (CallSite.of t' callee' r').method = (CallSite.of t callee r).method)
    (typed : type'.bind t'.resultType? = (type.bind t.resultType?).map f)
    (inside : ∀ result, type.bind t.resultType? = some result → result ∈ ids) (span : Span) :
    judge ⟨t', names, file, function, body'⟩ target' (.call callee' args' type' span) =
      judge ⟨t, names, file, function, body⟩ target (.call callee args type span) := by
  rw [judge, judge]
  dsimp only
  rw [typed]
  cases found : type.bind t.resultType? with
  | none => rfl
  | some result =>
    have h := inside result found
    have service := sim.service_eq callee callee' h
    have message := Message.build_congr (method result (f result)) service
    dsimp only [Option.map_some]
    simp only [message, service, sim.applicableTokenFields_eq _ _ h, sim.isTrusted_eq h, bound,
      handles]

/-! ### From judgements to findings -/

theorem judgeNode_congr {scope scope' : Scope} {n : Node}
    (same : ∀ target value, .expr value ∈ n.children →
      judge scope' target value = judge scope target value) :
    judgeNode scope' n = judgeNode scope n := by
  unfold judgeNode
  split
  next targets values define span =>
    refine List.filterMap_congr fun pair hpair => same pair.1 pair.2 ?_
    exact List.mem_append_right _ (List.mem_map_of_mem (List.of_mem_zip hpair).2)
  · rfl

theorem observeDecl_congr {names' : List String} {decl : Decl}
    (same : ∀ f body, decl = .func f → f.body = some body → ∀ target value,
      .expr value ∈ body.inner →
        judge ⟨t', names', file, f.name.name, body⟩ target value =
          judge ⟨t, names, file, f.name.name, body⟩ target value) :
    observeDecl t' names' file decl = observeDecl t names file decl := by
  cases decl with
  | func f =>
    obtain ⟨name, receiver, body, span⟩ := f
    cases body with
    | none => rfl
    | some body =>
      refine List.flatMap_congr fun n hn => judgeNode_congr fun target value hvalue => ?_
      have inside := Block.child_mem_nodes hn hvalue
      rw [Block.nodes_eq_inner] at inside
      exact same _ body rfl rfl target value inside
  | var => rfl

theorem lint_congr {u : ProgramUnit} {config config' : Config}
    (tests : config'.includeTests = config.includeTests)
    (same : ∀ file ∈ u.files, ∀ decl ∈ file.decls,
      observeDecl t' config'.tokenFields file.path decl =
        observeDecl u.types config.tokenFields file.path decl) :
    lint { u with types := t' } config' = lint u config := by
  have seen : observe { u with types := t' } config' = observe u config := by
    refine List.flatMap_congr fun file hfile => ?_
    rw [observeFile, observeFile, tests]
    congr 1
    exact List.flatMap_congr (same file hfile)
  rw [lint, lint, seen]

end Lint

end PaginationLint
