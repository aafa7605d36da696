import PaginationLint.Proofs.Syntax.Preorder
import PaginationLint.Proofs.Syntax.View

/-!
Syntax without what no judgement looks at.

`erase` keeps the shape of a tree, the names that are read or selected, and the types and spans of
calls. All else is gone: other spans, operators, literals, labels, keywords, the types of composites
and assertions, what a local declaration declares, and whether an assignment defines its targets.
The main statement is that the nodes of the erased tree have the views of the nodes of the tree.
-/

namespace PaginationLint

mutual

/-- The expression without what no judgement looks at. -/
def Expr.erase : Expr → Expr
  | .ident name _ => .ident name {}
  | .selector base member _ => .selector base.erase { name := member.name } {}
  | .call callee args type span => .call callee.erase (eraseExprs args) type span
  | .funcLit body _ => .funcLit body.erase {}
  | .unary _ operand _ => .unary "" operand.erase {}
  | .binary _ left right _ => .binary "" left.erase right.erase {}
  | .composite _ elements _ => .composite none (eraseExprs elements) {}
  | .keyValue key value _ => .keyValue key.erase value.erase {}
  | .index base place _ => .index base.erase place.erase {}
  | .typeAssert base _ _ => .typeAssert base.erase none {}
  | .paren inner _ => .paren inner.erase {}
  | .literal _ _ => .literal "" {}

/-- The statement without what no judgement looks at. -/
def Stmt.erase : Stmt → Stmt
  | .assign targets values _ _ => .assign (eraseExprs targets) (eraseExprs values) false {}
  | .var _ _ values _ => .var [] none (eraseExprs values) {}
  | .expr e => .expr e.erase
  | .block b => .block b.erase
  | .cond init test body otherwise _ =>
    .cond (eraseOptionalStmt init) test.erase body.erase (eraseOptionalStmt otherwise) {}
  | .loop init test post body _ =>
    .loop (eraseOptionalStmt init) (eraseOptionalExpr test) (eraseOptionalStmt post) body.erase {}
  | .range key value operand body _ =>
    .range (eraseOptionalExpr key) (eraseOptionalExpr value) operand.erase body.erase {}
  | .switch init tag cases _ =>
    .switch (eraseOptionalStmt init) (eraseOptionalExpr tag) (eraseCaseClauses cases) {}
  | .typeSwitch init subject cases _ =>
    .typeSwitch (eraseOptionalStmt init) subject.erase (eraseCaseClauses cases) {}
  | .select cases _ => .select (eraseCommClauses cases) {}
  | .labeled _ stmt _ => .labeled { name := "" } stmt.erase {}
  | .ret results _ => .ret (eraseExprs results) {}
  | .deferred call _ => .deferred call.erase {}
  | .spawned call _ => .spawned call.erase {}
  | .incDec target _ => .incDec target.erase {}
  | .jump _ _ _ => .jump "" none {}

/-- The block without what no judgement looks at. -/
def Block.erase : Block → Block
  | .mk stmts _ => .mk (eraseStmts stmts) {}

def CaseClause.erase : CaseClause → CaseClause
  | .mk exprs body _ => .mk (eraseExprs exprs) (eraseStmts body) {}

def CommClause.erase : CommClause → CommClause
  | .mk comm body _ => .mk (eraseOptionalStmt comm) (eraseStmts body) {}

def eraseExprs : List Expr → List Expr
  | [] => []
  | e :: es => e.erase :: eraseExprs es

def eraseStmts : List Stmt → List Stmt
  | [] => []
  | s :: ss => s.erase :: eraseStmts ss

def eraseCaseClauses : List CaseClause → List CaseClause
  | [] => []
  | c :: cs => c.erase :: eraseCaseClauses cs

def eraseCommClauses : List CommClause → List CommClause
  | [] => []
  | c :: cs => c.erase :: eraseCommClauses cs

def eraseOptionalExpr : Option Expr → Option Expr
  | none => none
  | some e => some e.erase

def eraseOptionalStmt : Option Stmt → Option Stmt
  | none => none
  | some s => some s.erase

end

/-! ### Views of erased nodes -/

theorem Expr.face_erase (e : Expr) : e.erase.face = e.face := by
  have ident (base : Expr) : base.erase.ident? = base.ident? := by cases base <;> rfl
  have member (callee : Expr) : callee.erase.member? = callee.member? := by cases callee <;> rfl
  cases e with
  | selector base name span => rw [erase, face, face, ident]
  | call callee args type span => rw [erase, face, face, member]
  | _ => rfl

theorem map_face_eraseExprs (es : List Expr) :
    (eraseExprs es).map Expr.face = es.map Expr.face := by
  induction es with
  | nil => rfl
  | cons e es ih => rw [eraseExprs, List.map_cons, List.map_cons, e.face_erase, ih]

theorem Expr.view_erase (e : Expr) : (Node.expr e.erase).view = (Node.expr e).view := by
  rw [Node.view, Node.view, e.face_erase]

theorem Stmt.view_erase (s : Stmt) : (Node.stmt s.erase).view = (Node.stmt s).view := by
  cases s with
  | assign targets values define span =>
    rw [erase, Node.view, Node.view, map_face_eraseExprs, map_face_eraseExprs]
  | _ => rfl

/-! ### Views inside erased trees

One case for each constructor of the grammar; an erased tree holds the same parts in the same
order. -/

mutual

theorem Expr.views_erase : ∀ e : Expr, e.erase.inner.map Node.view = e.inner.map Node.view
  | .ident _ _ | .literal _ _ => rfl
  | .selector base _ _ | .typeAssert base _ _ => by
    simp only [Expr.erase, Expr.inner, List.map_cons, base.view_erase, base.views_erase]
  | .call callee args _ _ => by
    simp only [Expr.erase, Expr.inner, List.map_append, List.map_cons, callee.view_erase,
      callee.views_erase, views_eraseExprs args]
  | .funcLit body _ => by simp only [Expr.erase, Expr.inner, body.views_erase]
  | .unary _ operand _ => by
    simp only [Expr.erase, Expr.inner, List.map_cons, operand.view_erase, operand.views_erase]
  | .binary _ left right _ => by
    simp only [Expr.erase, Expr.inner, List.map_append, List.map_cons, left.view_erase,
      left.views_erase, right.view_erase, right.views_erase]
  | .composite _ elements _ => by simp only [Expr.erase, Expr.inner, views_eraseExprs elements]
  | .keyValue key value _ => by
    simp only [Expr.erase, Expr.inner, List.map_append, List.map_cons, key.view_erase,
      key.views_erase, value.view_erase, value.views_erase]
  | .index base place _ => by
    simp only [Expr.erase, Expr.inner, List.map_append, List.map_cons, base.view_erase,
      base.views_erase, place.view_erase, place.views_erase]
  | .paren inner _ => by
    simp only [Expr.erase, Expr.inner, List.map_cons, inner.view_erase, inner.views_erase]

theorem Stmt.views_erase : ∀ s : Stmt, s.erase.inner.map Node.view = s.inner.map Node.view
  | .assign targets values _ _ => by
    simp only [Stmt.erase, Stmt.inner, List.map_append, views_eraseExprs targets,
      views_eraseExprs values]
  | .var _ _ values _ => by simp only [Stmt.erase, Stmt.inner, views_eraseExprs values]
  | .expr e => by simp only [Stmt.erase, Stmt.inner, List.map_cons, e.view_erase, e.views_erase]
  | .block b => by simp only [Stmt.erase, Stmt.inner, b.views_erase]
  | .cond init test body otherwise _ => by
    simp only [Stmt.erase, Stmt.inner, List.map_append, List.map_cons,
      views_eraseOptionalStmt init, test.view_erase, test.views_erase, body.views_erase,
      views_eraseOptionalStmt otherwise]
  | .loop init test post body _ => by
    simp only [Stmt.erase, Stmt.inner, List.map_append, views_eraseOptionalStmt init,
      views_eraseOptionalExpr test, views_eraseOptionalStmt post, body.views_erase]
  | .range key value operand body _ => by
    simp only [Stmt.erase, Stmt.inner, List.map_append, List.map_cons,
      views_eraseOptionalExpr key, views_eraseOptionalExpr value, operand.view_erase,
      operand.views_erase, body.views_erase]
  | .switch init tag cases _ => by
    simp only [Stmt.erase, Stmt.inner, List.map_append, views_eraseOptionalStmt init,
      views_eraseOptionalExpr tag, views_eraseCaseClauses cases]
  | .typeSwitch init subject cases _ => by
    simp only [Stmt.erase, Stmt.inner, List.map_append, List.map_cons,
      views_eraseOptionalStmt init, subject.view_erase, subject.views_erase,
      views_eraseCaseClauses cases]
  | .select cases _ => by simp only [Stmt.erase, Stmt.inner, views_eraseCommClauses cases]
  | .labeled _ stmt _ => by
    simp only [Stmt.erase, Stmt.inner, List.map_cons, stmt.view_erase, stmt.views_erase]
  | .ret results _ => by simp only [Stmt.erase, Stmt.inner, views_eraseExprs results]
  | .deferred call _ | .spawned call _ => by
    simp only [Stmt.erase, Stmt.inner, List.map_cons, call.view_erase, call.views_erase]
  | .incDec target _ => by
    simp only [Stmt.erase, Stmt.inner, List.map_cons, target.view_erase, target.views_erase]
  | .jump _ _ _ => rfl

theorem Block.views_erase : ∀ b : Block, b.erase.inner.map Node.view = b.inner.map Node.view
  | .mk stmts _ => views_eraseStmts stmts

theorem views_eraseExprs (es : List Expr) :
    (exprsInner (eraseExprs es)).map Node.view = (exprsInner es).map Node.view := by
  cases es with
  | nil => rfl
  | cons e es =>
    simp only [eraseExprs, exprsInner, List.map_append, List.map_cons, e.view_erase,
      e.views_erase, views_eraseExprs es]

theorem views_eraseStmts (ss : List Stmt) :
    (stmtsInner (eraseStmts ss)).map Node.view = (stmtsInner ss).map Node.view := by
  cases ss with
  | nil => rfl
  | cons s ss =>
    simp only [eraseStmts, stmtsInner, List.map_append, List.map_cons, s.view_erase,
      s.views_erase, views_eraseStmts ss]

theorem views_eraseCaseClauses : ∀ cs : List CaseClause,
    (caseClausesInner (eraseCaseClauses cs)).map Node.view = (caseClausesInner cs).map Node.view
  | [] => rfl
  | .mk exprs body _ :: cs => by
    simp only [eraseCaseClauses, caseClausesInner, CaseClause.erase, CaseClause.inner,
      List.map_append, views_eraseExprs exprs, views_eraseStmts body, views_eraseCaseClauses cs]

theorem views_eraseCommClauses : ∀ cs : List CommClause,
    (commClausesInner (eraseCommClauses cs)).map Node.view = (commClausesInner cs).map Node.view
  | [] => rfl
  | .mk comm body _ :: cs => by
    simp only [eraseCommClauses, commClausesInner, CommClause.erase, CommClause.inner,
      List.map_append, views_eraseOptionalStmt comm, views_eraseStmts body,
      views_eraseCommClauses cs]

theorem views_eraseOptionalExpr : ∀ e : Option Expr,
    (optionalExprInner (eraseOptionalExpr e)).map Node.view = (optionalExprInner e).map Node.view
  | none => rfl
  | some e => by
    simp only [eraseOptionalExpr, optionalExprInner, List.map_cons, e.view_erase, e.views_erase]

theorem views_eraseOptionalStmt : ∀ s : Option Stmt,
    (optionalStmtInner (eraseOptionalStmt s)).map Node.view = (optionalStmtInner s).map Node.view
  | none => rfl
  | some s => by
    simp only [eraseOptionalStmt, optionalStmtInner, List.map_cons, s.view_erase, s.views_erase]

end

/-- An erased body shows what the body shows. -/
theorem Block.map_view_nodes_erase (b : Block) :
    b.erase.nodes.map Node.view = b.nodes.map Node.view := by
  rw [nodes_eq_inner, nodes_eq_inner, b.views_erase]

end PaginationLint
