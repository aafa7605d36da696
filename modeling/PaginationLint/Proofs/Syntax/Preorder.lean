import Mathlib.Data.List.Basic
import PaginationLint.Syntax.Node

/-!
Nodes in the order in which they are read.

`Stmt.inner` and `Expr.inner` list what lies inside a statement or an expression: field by field,
each node in front of what lies inside it, by recursion on the syntax alone. The main statement is
that `Node.nodes` and `Block.nodes`, which go from node to node through `Node.children`, list the
same nodes in the same order. Whatever else unfolds along the children is a map of that list.
-/

namespace PaginationLint

/-! ### What lies inside a node -/

mutual

/-- The nodes inside an expression. -/
def Expr.inner : Expr → List Node
  | .ident _ _ => []
  | .selector base _ _ => .expr base :: base.inner
  | .call callee args _ _ => .expr callee :: callee.inner ++ exprsInner args
  | .funcLit body _ => body.inner
  | .unary _ operand _ => .expr operand :: operand.inner
  | .binary _ left right _ => .expr left :: left.inner ++ .expr right :: right.inner
  | .composite _ elements _ => exprsInner elements
  | .keyValue key value _ => .expr key :: key.inner ++ .expr value :: value.inner
  | .index base place _ => .expr base :: base.inner ++ .expr place :: place.inner
  | .typeAssert base _ _ => .expr base :: base.inner
  | .paren inner _ => .expr inner :: inner.inner
  | .literal _ _ => []

/-- The nodes inside a statement. -/
def Stmt.inner : Stmt → List Node
  | .assign targets values _ _ => exprsInner targets ++ exprsInner values
  | .var _ _ values _ => exprsInner values
  | .expr e => .expr e :: e.inner
  | .block b => b.inner
  | .cond init test body otherwise _ =>
    optionalStmtInner init ++ .expr test :: test.inner ++ body.inner ++ optionalStmtInner otherwise
  | .loop init test post body _ =>
    optionalStmtInner init ++ optionalExprInner test ++ optionalStmtInner post ++ body.inner
  | .range key value operand body _ =>
    optionalExprInner key ++ optionalExprInner value ++ .expr operand :: operand.inner ++ body.inner
  | .switch init tag cases _ =>
    optionalStmtInner init ++ optionalExprInner tag ++ caseClausesInner cases
  | .typeSwitch init subject cases _ =>
    optionalStmtInner init ++ .stmt subject :: subject.inner ++ caseClausesInner cases
  | .select cases _ => commClausesInner cases
  | .labeled _ stmt _ => .stmt stmt :: stmt.inner
  | .ret results _ => exprsInner results
  | .deferred call _ => .expr call :: call.inner
  | .spawned call _ => .expr call :: call.inner
  | .incDec target _ => .expr target :: target.inner
  | .jump _ _ _ => []

/-- The nodes inside a block. -/
def Block.inner : Block → List Node
  | .mk stmts _ => stmtsInner stmts

/-- The nodes inside a case of a switch. -/
def CaseClause.inner : CaseClause → List Node
  | .mk exprs body _ => exprsInner exprs ++ stmtsInner body

/-- The nodes inside a case of a select. -/
def CommClause.inner : CommClause → List Node
  | .mk comm body _ => optionalStmtInner comm ++ stmtsInner body

/-- Expressions, each in front of what lies inside it. -/
def exprsInner : List Expr → List Node
  | [] => []
  | e :: es => .expr e :: e.inner ++ exprsInner es

/-- Statements, each in front of what lies inside it. -/
def stmtsInner : List Stmt → List Node
  | [] => []
  | s :: ss => .stmt s :: s.inner ++ stmtsInner ss

def caseClausesInner : List CaseClause → List Node
  | [] => []
  | c :: cs => c.inner ++ caseClausesInner cs

def commClausesInner : List CommClause → List Node
  | [] => []
  | c :: cs => c.inner ++ commClausesInner cs

def optionalExprInner : Option Expr → List Node
  | none => []
  | some e => .expr e :: e.inner

def optionalStmtInner : Option Stmt → List Node
  | none => []
  | some s => .stmt s :: s.inner

end

/-- The nodes inside a node. -/
def Node.inner : Node → List Node
  | .stmt s => s.inner
  | .expr e => e.inner

/-- A node in front of what lies inside it. -/
def Node.preorder (n : Node) : List Node := n :: n.inner

/-! ### Lists and options of the grammar as lists of nodes -/

theorem exprsInner_eq : ∀ es : List Expr, exprsInner es = (es.map Node.expr).flatMap Node.preorder
  | [] => rfl
  | e :: es => by
    rw [exprsInner, exprsInner_eq es]
    rfl

theorem stmtsInner_eq : ∀ ss : List Stmt, stmtsInner ss = (ss.map Node.stmt).flatMap Node.preorder
  | [] => rfl
  | s :: ss => by
    rw [stmtsInner, stmtsInner_eq ss]
    rfl

theorem optionalExprInner_eq (e : Option Expr) :
    optionalExprInner e = (e.toList.map Node.expr).flatMap Node.preorder := by
  cases e with
  | none => rfl
  | some e => simp [optionalExprInner, Node.preorder, Node.inner]

theorem optionalStmtInner_eq (s : Option Stmt) :
    optionalStmtInner s = (s.toList.map Node.stmt).flatMap Node.preorder := by
  cases s with
  | none => rfl
  | some s => simp [optionalStmtInner, Node.preorder, Node.inner]

theorem Block.inner_eq (b : Block) : b.inner = b.children.flatMap Node.preorder := by
  obtain ⟨stmts, span⟩ := b
  exact stmtsInner_eq stmts

theorem CaseClause.inner_eq (c : CaseClause) : c.inner = c.children.flatMap Node.preorder := by
  obtain ⟨exprs, body, span⟩ := c
  rw [CaseClause.inner, CaseClause.children, exprsInner_eq, stmtsInner_eq, List.flatMap_append]

theorem CommClause.inner_eq (c : CommClause) : c.inner = c.children.flatMap Node.preorder := by
  obtain ⟨comm, body, span⟩ := c
  rw [CommClause.inner, CommClause.children, optionalStmtInner_eq, stmtsInner_eq,
    List.flatMap_append]

theorem caseClausesInner_eq : ∀ cs : List CaseClause,
    caseClausesInner cs = (cs.flatMap CaseClause.children).flatMap Node.preorder
  | [] => rfl
  | c :: cs => by
    rw [caseClausesInner, c.inner_eq, caseClausesInner_eq cs, List.flatMap_cons,
      List.flatMap_append]

theorem commClausesInner_eq : ∀ cs : List CommClause,
    commClausesInner cs = (cs.flatMap CommClause.children).flatMap Node.preorder
  | [] => rfl
  | c :: cs => by
    rw [commClausesInner, c.inner_eq, commClausesInner_eq cs, List.flatMap_cons,
      List.flatMap_append]

/-! ### The walk through the children -/

namespace Node

/-- Inside a node lie its children, each in front of what lies inside it: one case for each
constructor of the grammar. -/
theorem inner_eq (n : Node) : n.inner = n.children.flatMap preorder := by
  cases n with
  | expr e =>
    cases e <;>
      simp [inner, children, Expr.inner, Expr.children, preorder, exprsInner_eq, Block.inner_eq]
  | stmt s =>
    cases s <;>
      simp [inner, children, Stmt.inner, Stmt.children, preorder, exprsInner_eq,
        optionalExprInner_eq, optionalStmtInner_eq, Block.inner_eq, caseClausesInner_eq,
        commClausesInner_eq]

/-- Induction over a syntax tree from the children of a node to the node. -/
theorem induction_on_children {motive : Node → Prop} (n : Node)
    (step : ∀ n, (∀ m ∈ n.children, motive m) → motive n) : motive n :=
  step n fun m _ => induction_on_children m step
termination_by sizeOf n
decreasing_by exact sizeOf_lt_of_mem_children ‹_›

/-- What puts a node in front of what it makes of the children is a map of the walk. -/
theorem eq_map_nodes {α : Type} {f : Node → α} {g : Node → List α}
    (unfolds : ∀ n, g n = f n :: n.children.flatMap g) (n : Node) : g n = n.nodes.map f := by
  induction n using induction_on_children with
  | step n ih =>
    rw [unfolds, nodes_eq, List.map_cons, List.map_flatMap]
    exact congrArg _ (List.flatMap_congr ih)

theorem nodes_eq_preorder (n : Node) : n.nodes = n.preorder := by
  have unfolds : ∀ n, preorder n = id n :: n.children.flatMap preorder := fun n => by
    rw [preorder, inner_eq, id]
  simpa using (eq_map_nodes unfolds n).symm

/-- The walk goes on to the children of every node it meets. -/
theorem child_mem_nodes {n m c : Node} (hm : m ∈ n.nodes) (hc : c ∈ m.children) : c ∈ n.nodes := by
  induction n using induction_on_children with
  | step n ih =>
    rw [nodes_eq] at hm ⊢
    rcases List.mem_cons.mp hm with rfl | hm
    · refine List.mem_cons_of_mem _ (List.mem_flatMap.mpr ⟨c, hc, ?_⟩)
      rw [nodes_eq]
      exact List.mem_cons_self
    · obtain ⟨k, hk, hm⟩ := List.mem_flatMap.mp hm
      exact List.mem_cons_of_mem _ (List.mem_flatMap.mpr ⟨k, hk, ih k hk hm⟩)

end Node

/-- The walk through a block meets what lies inside it, in the order of reading. -/
theorem Block.nodes_eq_inner (b : Block) : b.nodes = b.inner := by
  rw [Block.nodes, b.inner_eq]
  exact List.flatMap_congr fun n _ => n.nodes_eq_preorder

theorem Block.child_mem_nodes {b : Block} {m c : Node} (hm : m ∈ b.nodes) (hc : c ∈ m.children) :
    c ∈ b.nodes := by
  obtain ⟨n, hn, hm⟩ := List.mem_flatMap.mp hm
  exact List.mem_flatMap.mpr ⟨n, hn, Node.child_mem_nodes hm hc⟩

end PaginationLint
