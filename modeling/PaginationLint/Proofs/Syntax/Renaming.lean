import PaginationLint.Proofs.Syntax.Preorder
import PaginationLint.Syntax.Handling

/-!
Type ids in a syntax tree.

`rename` replaces every type id in a tree and leaves everything else as it is. The nodes of the new
tree are the nodes of the old one, renamed, and a body handles what it handled before.
-/

namespace PaginationLint

mutual

/-- The same expression with other type ids in it. -/
def Expr.rename (f : TypeId → TypeId) : Expr → Expr
  | .ident name span => .ident name span
  | .selector base member span => .selector (base.rename f) member span
  | .call callee args type span =>
    .call (callee.rename f) (renameExprs f args) (type.map f) span
  | .funcLit body span => .funcLit (body.rename f) span
  | .unary op operand span => .unary op (operand.rename f) span
  | .binary op left right span => .binary op (left.rename f) (right.rename f) span
  | .composite type elements span => .composite (type.map f) (renameExprs f elements) span
  | .keyValue key value span => .keyValue (key.rename f) (value.rename f) span
  | .index base place span => .index (base.rename f) (place.rename f) span
  | .typeAssert base type span => .typeAssert (base.rename f) (type.map f) span
  | .paren inner span => .paren (inner.rename f) span
  | .literal value span => .literal value span

/-- The same statement with other type ids in it. -/
def Stmt.rename (f : TypeId → TypeId) : Stmt → Stmt
  | .assign targets values define span =>
    .assign (renameExprs f targets) (renameExprs f values) define span
  | .var names type values span => .var names (type.map f) (renameExprs f values) span
  | .expr e => .expr (e.rename f)
  | .block b => .block (b.rename f)
  | .cond init test body otherwise span =>
    .cond (renameOptionalStmt f init) (test.rename f) (body.rename f)
      (renameOptionalStmt f otherwise) span
  | .loop init test post body span =>
    .loop (renameOptionalStmt f init) (renameOptionalExpr f test) (renameOptionalStmt f post)
      (body.rename f) span
  | .range key value operand body span =>
    .range (renameOptionalExpr f key) (renameOptionalExpr f value) (operand.rename f)
      (body.rename f) span
  | .switch init tag cases span =>
    .switch (renameOptionalStmt f init) (renameOptionalExpr f tag) (renameCaseClauses f cases) span
  | .typeSwitch init subject cases span =>
    .typeSwitch (renameOptionalStmt f init) (subject.rename f) (renameCaseClauses f cases) span
  | .select cases span => .select (renameCommClauses f cases) span
  | .labeled label stmt span => .labeled label (stmt.rename f) span
  | .ret results span => .ret (renameExprs f results) span
  | .deferred call span => .deferred (call.rename f) span
  | .spawned call span => .spawned (call.rename f) span
  | .incDec target span => .incDec (target.rename f) span
  | .jump keyword label span => .jump keyword label span

/-- The same block with other type ids in it. -/
def Block.rename (f : TypeId → TypeId) : Block → Block
  | .mk stmts span => .mk (renameStmts f stmts) span

def CaseClause.rename (f : TypeId → TypeId) : CaseClause → CaseClause
  | .mk exprs body span => .mk (renameExprs f exprs) (renameStmts f body) span

def CommClause.rename (f : TypeId → TypeId) : CommClause → CommClause
  | .mk comm body span => .mk (renameOptionalStmt f comm) (renameStmts f body) span

def renameExprs (f : TypeId → TypeId) : List Expr → List Expr
  | [] => []
  | e :: es => e.rename f :: renameExprs f es

def renameStmts (f : TypeId → TypeId) : List Stmt → List Stmt
  | [] => []
  | s :: ss => s.rename f :: renameStmts f ss

def renameCaseClauses (f : TypeId → TypeId) : List CaseClause → List CaseClause
  | [] => []
  | c :: cs => c.rename f :: renameCaseClauses f cs

def renameCommClauses (f : TypeId → TypeId) : List CommClause → List CommClause
  | [] => []
  | c :: cs => c.rename f :: renameCommClauses f cs

def renameOptionalExpr (f : TypeId → TypeId) : Option Expr → Option Expr
  | none => none
  | some e => some (e.rename f)

def renameOptionalStmt (f : TypeId → TypeId) : Option Stmt → Option Stmt
  | none => none
  | some s => some (s.rename f)

end

/-- The same node with other type ids in it. -/
def Node.rename (f : TypeId → TypeId) : Node → Node
  | .stmt s => .stmt (s.rename f)
  | .expr e => .expr (e.rename f)

variable (f : TypeId → TypeId)

theorem renameExprs_eq : ∀ es : List Expr, renameExprs f es = es.map (Expr.rename f)
  | [] => rfl
  | e :: es => by rw [renameExprs, renameExprs_eq es, List.map_cons]

theorem renameStmts_eq : ∀ ss : List Stmt, renameStmts f ss = ss.map (Stmt.rename f)
  | [] => rfl
  | s :: ss => by rw [renameStmts, renameStmts_eq ss, List.map_cons]

theorem renameCaseClauses_eq : ∀ cs : List CaseClause,
    renameCaseClauses f cs = cs.map (CaseClause.rename f)
  | [] => rfl
  | c :: cs => by rw [renameCaseClauses, renameCaseClauses_eq cs, List.map_cons]

theorem renameCommClauses_eq : ∀ cs : List CommClause,
    renameCommClauses f cs = cs.map (CommClause.rename f)
  | [] => rfl
  | c :: cs => by rw [renameCommClauses, renameCommClauses_eq cs, List.map_cons]

theorem renameOptionalExpr_eq (e : Option Expr) : renameOptionalExpr f e = e.map (Expr.rename f) := by
  cases e <;> rfl

theorem renameOptionalStmt_eq (s : Option Stmt) : renameOptionalStmt f s = s.map (Stmt.rename f) := by
  cases s <;> rfl

/-! ### The nodes of a renamed tree -/

theorem map_expr_rename (es : List Expr) :
    (es.map (Expr.rename f)).map Node.expr = (es.map Node.expr).map (Node.rename f) := by
  rw [List.map_map, List.map_map]
  rfl

theorem map_stmt_rename (ss : List Stmt) :
    (ss.map (Stmt.rename f)).map Node.stmt = (ss.map Node.stmt).map (Node.rename f) := by
  rw [List.map_map, List.map_map]
  rfl

theorem Block.children_rename (b : Block) :
    (b.rename f).children = b.children.map (Node.rename f) := by
  obtain ⟨stmts, span⟩ := b
  simp only [Block.rename, Block.children, Block.stmts, renameStmts_eq, map_stmt_rename]

theorem CaseClause.children_rename (c : CaseClause) :
    (c.rename f).children = c.children.map (Node.rename f) := by
  obtain ⟨exprs, body, span⟩ := c
  simp only [CaseClause.rename, CaseClause.children, renameExprs_eq, renameStmts_eq,
    map_expr_rename, map_stmt_rename, List.map_append]

theorem CommClause.children_rename (c : CommClause) :
    (c.rename f).children = c.children.map (Node.rename f) := by
  obtain ⟨comm, body, span⟩ := c
  simp only [CommClause.rename, CommClause.children, renameOptionalStmt_eq, renameStmts_eq,
    Option.toList_map, map_stmt_rename, List.map_append]

theorem flatMap_caseClauses_rename (cs : List CaseClause) :
    (cs.map (CaseClause.rename f)).flatMap CaseClause.children =
      (cs.flatMap CaseClause.children).map (Node.rename f) := by
  rw [List.flatMap_map, List.map_flatMap]
  exact List.flatMap_congr fun c _ => c.children_rename f

theorem flatMap_commClauses_rename (cs : List CommClause) :
    (cs.map (CommClause.rename f)).flatMap CommClause.children =
      (cs.flatMap CommClause.children).map (Node.rename f) := by
  rw [List.flatMap_map, List.map_flatMap]
  exact List.flatMap_congr fun c _ => c.children_rename f

namespace Node

/-- The children of a renamed node are its children, renamed: one case for each constructor. -/
theorem children_rename (n : Node) : (n.rename f).children = n.children.map (rename f) := by
  cases n with
  | expr e =>
    cases e <;>
      simp only [rename, children, Expr.rename, Expr.children, renameExprs_eq, map_expr_rename,
        Block.children_rename, List.map_cons, List.map_nil]
  | stmt s =>
    cases s <;>
      simp only [rename, children, Stmt.rename, Stmt.children, renameExprs_eq,
        renameOptionalExpr_eq, renameOptionalStmt_eq, renameCaseClauses_eq, renameCommClauses_eq,
        Option.toList_map, map_expr_rename, map_stmt_rename, Block.children_rename,
        flatMap_caseClauses_rename, flatMap_commClauses_rename, List.map_append, List.map_cons,
        List.map_nil]

theorem nodes_rename (n : Node) : (n.rename f).nodes = n.nodes.map (rename f) := by
  refine eq_map_nodes (g := fun n => (n.rename f).nodes) (fun n => ?_) n
  rw [nodes_eq, children_rename, List.flatMap_map]

theorem handles_rename (holder : String) (fields : List String) (n : Node) :
    (n.rename f).handles holder fields = n.handles holder fields := by
  cases n with
  | stmt s => rfl
  | expr e =>
    have reads : (e.rename f).readsToken holder fields = e.readsToken holder fields := by
      cases e with
      | selector base member span =>
        rw [Expr.rename, Expr.readsToken, Expr.readsToken]
        cases base <;> rfl
      | _ => rfl
    have uses : (e.rename f).usesPaginator = e.usesPaginator := by
      cases e with
      | call callee args type span => cases callee <;> rfl
      | _ => rfl
    rw [rename, handles, handles, reads, uses]

end Node

namespace Block

theorem nodes_rename (b : Block) : (b.rename f).nodes = b.nodes.map (Node.rename f) := by
  rw [nodes, nodes, children_rename, List.flatMap_map, List.map_flatMap]
  exact List.flatMap_congr fun n _ => n.nodes_rename f

/-- A body handles pagination whatever the ids of its types. -/
theorem handles_rename (b : Block) (holder : String) (fields : List String) :
    (b.rename f).handles holder fields = b.handles holder fields := by
  rw [handles, handles, nodes_rename, List.any_map]
  congr 1
  funext n
  exact n.handles_rename f holder fields

end Block

end PaginationLint
