import PaginationLint.Syntax.Basic

/-!
The nodes of a syntax tree.

A node is a statement or an expression. `Node.children` lists the nodes directly below one in the
order of the source; blocks and clauses are no nodes themselves and hand on what they hold.
`Node.nodes` is the whole tree below a node, each node in front of everything inside it.
-/

namespace PaginationLint

/-- A statement or an expression. -/
inductive Node where
  | stmt (s : Stmt)
  | expr (e : Expr)
  deriving Inhabited

/-- The nodes directly in a block. -/
def Block.children (b : Block) : List Node := b.stmts.map .stmt

/-- The nodes directly in a case of a switch. -/
def CaseClause.children : CaseClause → List Node
  | .mk exprs body _ => exprs.map .expr ++ body.map .stmt

/-- The nodes directly in a case of a select. -/
def CommClause.children : CommClause → List Node
  | .mk comm body _ => comm.toList.map .stmt ++ body.map .stmt

/-- The nodes directly below an expression. -/
def Expr.children : Expr → List Node
  | .ident _ _ | .literal _ _ => []
  | .selector base _ _ | .typeAssert base _ _ => [.expr base]
  | .call callee args _ _ => .expr callee :: args.map .expr
  | .funcLit body _ => body.children
  | .unary _ operand _ => [.expr operand]
  | .binary _ left right _ => [.expr left, .expr right]
  | .composite _ elements _ => elements.map .expr
  | .keyValue key value _ => [.expr key, .expr value]
  | .index base place _ => [.expr base, .expr place]
  | .paren inner _ => [.expr inner]

/-- The nodes directly below a statement. -/
def Stmt.children : Stmt → List Node
  | .assign targets values _ _ => targets.map .expr ++ values.map .expr
  | .var _ _ values _ => values.map .expr
  | .expr e => [.expr e]
  | .block b => b.children
  | .cond init test body otherwise _ =>
    init.toList.map .stmt ++ .expr test :: body.children ++ otherwise.toList.map .stmt
  | .loop init test post body _ =>
    init.toList.map .stmt ++ test.toList.map .expr ++ post.toList.map .stmt ++ body.children
  | .range key value operand body _ =>
    key.toList.map .expr ++ value.toList.map .expr ++ .expr operand :: body.children
  | .switch init tag cases _ =>
    init.toList.map .stmt ++ tag.toList.map .expr ++ cases.flatMap CaseClause.children
  | .typeSwitch init subject cases _ =>
    init.toList.map .stmt ++ .stmt subject :: cases.flatMap CaseClause.children
  | .select cases _ => cases.flatMap CommClause.children
  | .labeled _ stmt _ => [.stmt stmt]
  | .ret results _ => results.map .expr
  | .deferred call _ | .spawned call _ => [.expr call]
  | .incDec target _ => [.expr target]
  | .jump _ _ _ => []

namespace Node

/-- The nodes directly below a node. -/
def children : Node → List Node
  | .stmt s => s.children
  | .expr e => e.children

/-! ### Children are smaller -/

theorem sizeOf_le_of_mem_exprs {es : List Expr} {n : Node} (h : n ∈ es.map Node.expr) :
    sizeOf n ≤ sizeOf es := by
  obtain ⟨e, he, rfl⟩ := List.mem_map.mp h
  have := List.sizeOf_lt_of_mem he
  simp only [Node.expr.sizeOf_spec]
  omega

theorem sizeOf_le_of_mem_stmts {ss : List Stmt} {n : Node} (h : n ∈ ss.map Node.stmt) :
    sizeOf n ≤ sizeOf ss := by
  obtain ⟨s, hs, rfl⟩ := List.mem_map.mp h
  have := List.sizeOf_lt_of_mem hs
  simp only [Node.stmt.sizeOf_spec]
  omega

theorem sizeOf_le_of_mem_optionalExpr {e : Option Expr} {n : Node}
    (h : n ∈ e.toList.map Node.expr) : sizeOf n ≤ sizeOf e := by
  cases e with
  | none => cases h
  | some e =>
    cases List.mem_singleton.mp h
    simp

theorem sizeOf_le_of_mem_optionalStmt {s : Option Stmt} {n : Node}
    (h : n ∈ s.toList.map Node.stmt) : sizeOf n ≤ sizeOf s := by
  cases s with
  | none => cases h
  | some s =>
    cases List.mem_singleton.mp h
    simp

theorem sizeOf_le_of_mem_block {b : Block} {n : Node} (h : n ∈ b.children) :
    sizeOf n ≤ sizeOf b := by
  obtain ⟨stmts, span⟩ := b
  have := sizeOf_le_of_mem_stmts h
  simp only [Block.mk.sizeOf_spec, Block.stmts] at *
  omega

theorem sizeOf_le_of_mem_caseClause {c : CaseClause} {n : Node} (h : n ∈ c.children) :
    sizeOf n ≤ sizeOf c := by
  obtain ⟨exprs, body, span⟩ := c
  simp only [CaseClause.mk.sizeOf_spec]
  rcases List.mem_append.mp h with h | h
  · have := sizeOf_le_of_mem_exprs h
    omega
  · have := sizeOf_le_of_mem_stmts h
    omega

theorem sizeOf_le_of_mem_commClause {c : CommClause} {n : Node} (h : n ∈ c.children) :
    sizeOf n ≤ sizeOf c := by
  obtain ⟨comm, body, span⟩ := c
  simp only [CommClause.mk.sizeOf_spec]
  rcases List.mem_append.mp h with h | h
  · have := sizeOf_le_of_mem_optionalStmt h
    omega
  · have := sizeOf_le_of_mem_stmts h
    omega

theorem sizeOf_le_of_mem_caseClauses {cs : List CaseClause} {n : Node}
    (h : n ∈ cs.flatMap CaseClause.children) : sizeOf n ≤ sizeOf cs := by
  obtain ⟨c, hc, h⟩ := List.mem_flatMap.mp h
  have := sizeOf_le_of_mem_caseClause h
  have := List.sizeOf_lt_of_mem hc
  omega

theorem sizeOf_le_of_mem_commClauses {cs : List CommClause} {n : Node}
    (h : n ∈ cs.flatMap CommClause.children) : sizeOf n ≤ sizeOf cs := by
  obtain ⟨c, hc, h⟩ := List.mem_flatMap.mp h
  have := sizeOf_le_of_mem_commClause h
  have := List.sizeOf_lt_of_mem hc
  omega

theorem sizeOf_le_of_mem_exprChildren {e : Expr} {n : Node} (h : n ∈ e.children) :
    sizeOf n ≤ sizeOf e := by
  cases e <;> simp only [Expr.children] at h <;>
    grind [→ sizeOf_le_of_mem_exprs, → sizeOf_le_of_mem_block]

theorem sizeOf_le_of_mem_stmtChildren {s : Stmt} {n : Node} (h : n ∈ s.children) :
    sizeOf n ≤ sizeOf s := by
  cases s <;> simp only [Stmt.children] at h <;>
    grind [→ sizeOf_le_of_mem_exprs, → sizeOf_le_of_mem_block, → sizeOf_le_of_mem_optionalExpr,
      → sizeOf_le_of_mem_optionalStmt, → sizeOf_le_of_mem_caseClauses,
      → sizeOf_le_of_mem_commClauses]

theorem sizeOf_lt_of_mem_children {m n : Node} (h : m ∈ n.children) : sizeOf m < sizeOf n := by
  cases n with
  | stmt s =>
    have := sizeOf_le_of_mem_stmtChildren h
    simp only [Node.stmt.sizeOf_spec]
    omega
  | expr e =>
    have := sizeOf_le_of_mem_exprChildren h
    simp only [Node.expr.sizeOf_spec]
    omega

/-- A node and all nodes below it, each in front of what is inside it. -/
def nodes (n : Node) : List Node :=
  n :: n.children.attach.flatMap fun ⟨m, _⟩ => m.nodes
termination_by sizeOf n
decreasing_by exact sizeOf_lt_of_mem_children ‹_›

theorem nodes_eq (n : Node) : n.nodes = n :: n.children.flatMap nodes := by
  rw [nodes, List.flatMap_subtype (g := nodes) (fun _ _ => rfl), List.unattach_attach]

end Node

/-- All nodes of an expression. -/
def Expr.nodes (e : Expr) : List Node := (Node.expr e).nodes

/-- All nodes of a block. -/
def Block.nodes (b : Block) : List Node := b.children.flatMap Node.nodes

end PaginationLint
