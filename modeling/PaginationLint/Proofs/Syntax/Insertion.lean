import Mathlib.Data.List.Basic
import PaginationLint.Proofs.Syntax.Preorder
import PaginationLint.Proofs.Syntax.View

/-!
Statements put into a body.

`Block.insertions` lists everything that a block becomes when statements are put in at one place:
any position of any statement list in it, at whatever depth. The main statement is that the views of
the nodes stay as they are and in their order, with the views of the new nodes in one run among
them.
-/

namespace PaginationLint

/-- All lists in which one item is exchanged for one of its alternatives. -/
def oneReplaced {α : Type} (alternatives : α → List α) : List α → List (List α)
  | [] => []
  | a :: as => (alternatives a).map (· :: as) ++ (oneReplaced alternatives as).map (a :: ·)

mutual

/-- What an expression becomes when statements are put in somewhere. -/
def Expr.insertions (new : List Stmt) : Expr → List Expr
  | .ident _ _ | .literal _ _ => []
  | .selector base member span => (base.insertions new).map (.selector · member span)
  | .call callee args type span =>
    (callee.insertions new).map (.call · args type span) ++
      (exprsInsertions new args).map (.call callee · type span)
  | .funcLit body span => (body.insertions new).map (.funcLit · span)
  | .unary op operand span => (operand.insertions new).map (.unary op · span)
  | .binary op left right span =>
    (left.insertions new).map (.binary op · right span) ++
      (right.insertions new).map (.binary op left · span)
  | .composite type elements span => (exprsInsertions new elements).map (.composite type · span)
  | .keyValue key value span =>
    (key.insertions new).map (.keyValue · value span) ++
      (value.insertions new).map (.keyValue key · span)
  | .index base place span =>
    (base.insertions new).map (.index · place span) ++
      (place.insertions new).map (.index base · span)
  | .typeAssert base type span => (base.insertions new).map (.typeAssert · type span)
  | .paren inner span => (inner.insertions new).map (.paren · span)

/-- What a statement becomes when statements are put in somewhere. -/
def Stmt.insertions (new : List Stmt) : Stmt → List Stmt
  | .assign targets values define span =>
    (exprsInsertions new targets).map (.assign · values define span) ++
      (exprsInsertions new values).map (.assign targets · define span)
  | .var names type values span => (exprsInsertions new values).map (.var names type · span)
  | .expr e => (e.insertions new).map .expr
  | .block b => (b.insertions new).map .block
  | .cond init test body otherwise span =>
    (optionalStmtInsertions new init).map (.cond · test body otherwise span) ++
      (test.insertions new).map (.cond init · body otherwise span) ++
      (body.insertions new).map (.cond init test · otherwise span) ++
      (optionalStmtInsertions new otherwise).map (.cond init test body · span)
  | .loop init test post body span =>
    (optionalStmtInsertions new init).map (.loop · test post body span) ++
      (optionalExprInsertions new test).map (.loop init · post body span) ++
      (optionalStmtInsertions new post).map (.loop init test · body span) ++
      (body.insertions new).map (.loop init test post · span)
  | .range key value operand body span =>
    (optionalExprInsertions new key).map (.range · value operand body span) ++
      (optionalExprInsertions new value).map (.range key · operand body span) ++
      (operand.insertions new).map (.range key value · body span) ++
      (body.insertions new).map (.range key value operand · span)
  | .switch init tag cases span =>
    (optionalStmtInsertions new init).map (.switch · tag cases span) ++
      (optionalExprInsertions new tag).map (.switch init · cases span) ++
      (caseClausesInsertions new cases).map (.switch init tag · span)
  | .typeSwitch init subject cases span =>
    (optionalStmtInsertions new init).map (.typeSwitch · subject cases span) ++
      (subject.insertions new).map (.typeSwitch init · cases span) ++
      (caseClausesInsertions new cases).map (.typeSwitch init subject · span)
  | .select cases span => (commClausesInsertions new cases).map (.select · span)
  | .labeled label stmt span => (stmt.insertions new).map (.labeled label · span)
  | .ret results span => (exprsInsertions new results).map (.ret · span)
  | .deferred call span => (call.insertions new).map (.deferred · span)
  | .spawned call span => (call.insertions new).map (.spawned · span)
  | .incDec target span => (target.insertions new).map (.incDec · span)
  | .jump _ _ _ => []

def Block.insertions (new : List Stmt) : Block → List Block
  | .mk stmts span => (stmtsInsertions new stmts).map (.mk · span)

def CaseClause.insertions (new : List Stmt) : CaseClause → List CaseClause
  | .mk exprs body span =>
    (exprsInsertions new exprs).map (.mk · body span) ++
      (stmtsInsertions new body).map (.mk exprs · span)

def CommClause.insertions (new : List Stmt) : CommClause → List CommClause
  | .mk comm body span =>
    (optionalStmtInsertions new comm).map (.mk · body span) ++
      (stmtsInsertions new body).map (.mk comm · span)

/-- What a statement list becomes: the new statements stand at one of its positions, or somewhere
inside one of its statements. -/
def stmtsInsertions (new : List Stmt) : List Stmt → List (List Stmt)
  | [] => [new]
  | s :: ss =>
    (new ++ s :: ss) :: (s.insertions new).map (· :: ss) ++ (stmtsInsertions new ss).map (s :: ·)

def exprsInsertions (new : List Stmt) : List Expr → List (List Expr)
  | [] => []
  | e :: es => (e.insertions new).map (· :: es) ++ (exprsInsertions new es).map (e :: ·)

def caseClausesInsertions (new : List Stmt) : List CaseClause → List (List CaseClause)
  | [] => []
  | c :: cs => (c.insertions new).map (· :: cs) ++ (caseClausesInsertions new cs).map (c :: ·)

def commClausesInsertions (new : List Stmt) : List CommClause → List (List CommClause)
  | [] => []
  | c :: cs => (c.insertions new).map (· :: cs) ++ (commClausesInsertions new cs).map (c :: ·)

def optionalExprInsertions (new : List Stmt) : Option Expr → List (Option Expr)
  | none => []
  | some e => (e.insertions new).map some

def optionalStmtInsertions (new : List Stmt) : Option Stmt → List (Option Stmt)
  | none => []
  | some s => (s.insertions new).map some

end

/-- What a node becomes when statements are put in somewhere. -/
def Node.insertions (new : List Stmt) : Node → List Node
  | .expr e => (e.insertions new).map .expr
  | .stmt s => (s.insertions new).map .stmt

/-! ### Lists of the grammar -/

section Lists

variable {new : List Stmt}

theorem mem_oneReplaced_iff {α : Type} {alternatives : α → List α} {as as' : List α} :
    as' ∈ oneReplaced alternatives as ↔ ∃ before a a' after,
      as = before ++ a :: after ∧ a' ∈ alternatives a ∧ as' = before ++ a' :: after := by
  induction as generalizing as' with
  | nil => simp [oneReplaced]
  | cons a as ih =>
    simp only [oneReplaced, List.mem_append, List.mem_map, ih]
    constructor
    · rintro (⟨a', h, rfl⟩ | ⟨_, ⟨before, b, b', after, rfl, h, rfl⟩, rfl⟩)
      · exact ⟨[], a, a', as, rfl, h, rfl⟩
      · exact ⟨a :: before, b, b', after, rfl, h, rfl⟩
    · rintro ⟨_ | ⟨c, before⟩, b, b', after, split, h, rfl⟩
      · obtain ⟨rfl, rfl⟩ := List.cons.inj split
        exact .inl ⟨b', h, rfl⟩
      · obtain ⟨rfl, rfl⟩ := List.cons.inj split
        exact .inr ⟨_, ⟨before, b, b', after, rfl, h, rfl⟩, rfl⟩

theorem exprsInsertions_eq : ∀ es : List Expr,
    exprsInsertions new es = oneReplaced (Expr.insertions new) es
  | [] => rfl
  | e :: es => by rw [exprsInsertions, oneReplaced, exprsInsertions_eq es]

theorem caseClausesInsertions_eq : ∀ cs : List CaseClause,
    caseClausesInsertions new cs = oneReplaced (CaseClause.insertions new) cs
  | [] => rfl
  | c :: cs => by rw [caseClausesInsertions, oneReplaced, caseClausesInsertions_eq cs]

theorem commClausesInsertions_eq : ∀ cs : List CommClause,
    commClausesInsertions new cs = oneReplaced (CommClause.insertions new) cs
  | [] => rfl
  | c :: cs => by rw [commClausesInsertions, oneReplaced, commClausesInsertions_eq cs]

/-- New statements stand at a position of the list or inside one of its statements. -/
theorem mem_stmtsInsertions_iff {ss ss' : List Stmt} :
    ss' ∈ stmtsInsertions new ss ↔
      (∃ before after, ss = before ++ after ∧ ss' = before ++ new ++ after) ∨
        ss' ∈ oneReplaced (Stmt.insertions new) ss := by
  induction ss generalizing ss' with
  | nil =>
    simp only [stmtsInsertions, List.mem_singleton, oneReplaced, List.not_mem_nil, or_false]
    constructor
    · rintro rfl
      exact ⟨[], [], rfl, by simp⟩
    · rintro ⟨before, after, split, rfl⟩
      obtain ⟨rfl, rfl⟩ := List.append_eq_nil_iff.mp split.symm
      simp
  | cons s ss ih =>
    simp only [stmtsInsertions, oneReplaced, List.cons_append, List.mem_cons, List.mem_append,
      List.mem_map, ih]
    constructor
    · rintro (rfl | inside | ⟨_, ⟨before, after, rfl, rfl⟩ | inside, rfl⟩)
      · exact .inl ⟨[], s :: ss, rfl, rfl⟩
      · exact .inr (.inl inside)
      · exact .inl ⟨s :: before, after, rfl, rfl⟩
      · exact .inr (.inr ⟨_, inside, rfl⟩)
    · rintro (⟨_ | ⟨t, before⟩, after, split, rfl⟩ | inside | ⟨_, inside, rfl⟩)
      · exact .inl (by rw [split]; rfl)
      · obtain ⟨rfl, rfl⟩ := List.cons.inj split
        exact .inr (.inr ⟨_, .inl ⟨before, after, rfl, rfl⟩, rfl⟩)
      · exact .inr (.inl inside)
      · exact .inr (.inr ⟨_, .inr inside, rfl⟩)

end Lists

/-! ### Positions -/

/-- The statements of a case of a switch. -/
def CaseClause.body : CaseClause → List Stmt
  | .mk _ body _ => body

/-- The statements of a case of a select. -/
def CommClause.body : CommClause → List Stmt
  | .mk _ body _ => body

/-- The statement lists directly in a node. -/
def Node.stmtLists : Node → List (List Stmt)
  | .expr (.funcLit body _) | .stmt (.block body) | .stmt (.cond _ _ body _ _)
  | .stmt (.loop _ _ _ body _) | .stmt (.range _ _ _ body _) => [body.stmts]
  | .stmt (.switch _ _ cases _) | .stmt (.typeSwitch _ _ cases _) => cases.map CaseClause.body
  | .stmt (.select cases _) => cases.map CommClause.body
  | _ => []

/-- The statement lists in a block: its own, and those of all nodes in it. -/
def Block.stmtLists (b : Block) : List (List Stmt) := b.stmts :: b.nodes.flatMap Node.stmtLists

/-- How many positions some lists have: one in front of each statement and one at each end. -/
def positionCount : List (List Stmt) → Nat
  | [] => 0
  | ss :: rest => ss.length + 1 + positionCount rest

@[simp] theorem positionCount_nil : positionCount [] = 0 := rfl

@[simp] theorem positionCount_cons (ss : List Stmt) (rest : List (List Stmt)) :
    positionCount (ss :: rest) = ss.length + 1 + positionCount rest := rfl

@[simp] theorem positionCount_append (l l' : List (List Stmt)) :
    positionCount (l ++ l') = positionCount l + positionCount l' := by
  induction l with
  | nil => simp
  | cons ss rest ih => simp [ih]; omega

section Positions

variable {new : List Stmt}

@[simp] theorem length_exprsInsertions (es : List Expr) :
    (exprsInsertions new es).length = ((es.map .expr).flatMap (Node.insertions new)).length := by
  induction es with
  | nil => rfl
  | cons e es ih => simp [exprsInsertions, Node.insertions, ih]

@[simp] theorem length_stmtsInsertions (ss : List Stmt) :
    (stmtsInsertions new ss).length =
      ss.length + 1 + ((ss.map .stmt).flatMap (Node.insertions new)).length := by
  induction ss with
  | nil => rfl
  | cons s ss ih => simp [stmtsInsertions, Node.insertions, ih]; omega

@[simp] theorem length_optionalExprInsertions (e : Option Expr) :
    (optionalExprInsertions new e).length =
      ((e.toList.map .expr).flatMap (Node.insertions new)).length := by
  cases e <;> simp [optionalExprInsertions, Node.insertions]

@[simp] theorem length_optionalStmtInsertions (s : Option Stmt) :
    (optionalStmtInsertions new s).length =
      ((s.toList.map .stmt).flatMap (Node.insertions new)).length := by
  cases s <;> simp [optionalStmtInsertions, Node.insertions]

@[simp] theorem Block.length_insertions_of_children (b : Block) :
    (b.insertions new).length =
      b.stmts.length + 1 + (b.children.flatMap (Node.insertions new)).length := by
  obtain ⟨stmts, span⟩ := b
  simp [insertions, Block.stmts, Block.children]

@[simp] theorem length_caseClausesInsertions (cs : List CaseClause) :
    (caseClausesInsertions new cs).length = positionCount (cs.map CaseClause.body) +
      ((cs.flatMap CaseClause.children).flatMap (Node.insertions new)).length := by
  induction cs with
  | nil => rfl
  | cons c cs ih =>
    obtain ⟨exprs, body, span⟩ := c
    simp [caseClausesInsertions, CaseClause.insertions, CaseClause.body, CaseClause.children, ih]
    omega

@[simp] theorem length_commClausesInsertions (cs : List CommClause) :
    (commClausesInsertions new cs).length = positionCount (cs.map CommClause.body) +
      ((cs.flatMap CommClause.children).flatMap (Node.insertions new)).length := by
  induction cs with
  | nil => rfl
  | cons c cs ih =>
    obtain ⟨comm, body, span⟩ := c
    simp [commClausesInsertions, CommClause.insertions, CommClause.body, CommClause.children, ih]
    omega

/-- A node offers the positions of its own lists and those that its children offer. -/
theorem Node.length_insertions_of_children (n : Node) :
    (n.insertions new).length =
      positionCount n.stmtLists + (n.children.flatMap (Node.insertions new)).length := by
  cases n with
  | expr e =>
    cases e <;> simp [insertions, Expr.insertions, stmtLists, children, Expr.children]
  | stmt s =>
    cases s <;> simp [insertions, Stmt.insertions, stmtLists, children, Stmt.children] <;> omega

theorem length_flatMap_eq_positionCount {α β : Type} {f : α → List β} {lists : α → List (List Stmt)}
    {as : List α} (each : ∀ a ∈ as, (f a).length = positionCount (lists a)) :
    (as.flatMap f).length = positionCount (as.flatMap lists) := by
  induction as with
  | nil => rfl
  | cons a as ih =>
    rw [List.flatMap_cons, List.flatMap_cons, List.length_append, positionCount_append,
      each a List.mem_cons_self, ih fun b hb => each b (List.mem_cons_of_mem _ hb)]

theorem Node.length_insertions (n : Node) :
    (n.insertions new).length = positionCount (n.nodes.flatMap stmtLists) := by
  induction n using induction_on_children with
  | step n ih =>
    rw [length_insertions_of_children, nodes_eq, List.flatMap_cons, positionCount_append,
      length_flatMap_eq_positionCount ih, List.flatMap_assoc]

/-- There is one insertion for each position of each statement list. -/
theorem Block.length_insertions (b : Block) :
    (b.insertions new).length = positionCount b.stmtLists := by
  rw [length_insertions_of_children, stmtLists, positionCount_cons, Block.nodes, List.flatMap_assoc,
    length_flatMap_eq_positionCount fun n _ => n.length_insertions]

theorem length_oneReplaced {α : Type} {alternatives : α → List α} (as : List α) :
    (oneReplaced alternatives as).length = (as.flatMap alternatives).length := by
  induction as with
  | nil => rfl
  | cons a as ih =>
    rw [oneReplaced, List.flatMap_cons, List.length_append, List.length_append, List.length_map,
      List.length_map, ih]

end Positions

/-! ### One level -/

/-- How the children of a node change: new statements stand among them, or one of them has changed
in this way itself. -/
inductive ChildrenChange (new : List Stmt) : List Node → List Node → Prop
  | insert (before after : List Node) :
    ChildrenChange new (before ++ after) (before ++ new.map .stmt ++ after)
  | inside (before after : List Node) {c c' : Node} (h : c' ∈ c.insertions new) :
    ChildrenChange new (before ++ c :: after) (before ++ c' :: after)

namespace ChildrenChange

variable {new : List Stmt} {ns ns' : List Node}

theorem append_left (change : ChildrenChange new ns ns') (left : List Node) :
    ChildrenChange new (left ++ ns) (left ++ ns') := by
  cases change with
  | insert before after => simpa using insert (left ++ before) after
  | inside before after h => simpa using inside (left ++ before) after h

theorem append_right (change : ChildrenChange new ns ns') (right : List Node) :
    ChildrenChange new (ns ++ right) (ns' ++ right) := by
  cases change with
  | insert before after => simpa using insert before (after ++ right)
  | inside before after h => simpa using inside before (after ++ right) h

theorem expr {e e' : Expr} (h : e' ∈ e.insertions new) :
    ChildrenChange new [.expr e] [.expr e'] :=
  inside [] [] (List.mem_map_of_mem h)

theorem stmt {s s' : Stmt} (h : s' ∈ s.insertions new) :
    ChildrenChange new [.stmt s] [.stmt s'] :=
  inside [] [] (List.mem_map_of_mem h)

theorem exprs {es es' : List Expr} (h : es' ∈ exprsInsertions new es) :
    ChildrenChange new (es.map .expr) (es'.map .expr) := by
  rw [exprsInsertions_eq, mem_oneReplaced_iff] at h
  obtain ⟨before, e, e', after, rfl, h, rfl⟩ := h
  simpa using ((expr h).append_right (after.map .expr)).append_left (before.map .expr)

theorem stmts {ss ss' : List Stmt} (h : ss' ∈ stmtsInsertions new ss) :
    ChildrenChange new (ss.map .stmt) (ss'.map .stmt) := by
  rw [mem_stmtsInsertions_iff, mem_oneReplaced_iff] at h
  rcases h with ⟨before, after, rfl, rfl⟩ | ⟨before, s, s', after, rfl, h, rfl⟩
  · simpa using insert (before.map .stmt) (after.map .stmt)
  · simpa using ((stmt h).append_right (after.map .stmt)).append_left (before.map .stmt)

theorem optionalExpr {e e' : Option Expr} (mem : e' ∈ optionalExprInsertions new e) :
    ChildrenChange new (e.toList.map .expr) (e'.toList.map .expr) := by
  cases e with
  | none => cases mem
  | some e =>
    obtain ⟨e', h, rfl⟩ := List.mem_map.mp mem
    exact expr h

theorem optionalStmt {s s' : Option Stmt} (mem : s' ∈ optionalStmtInsertions new s) :
    ChildrenChange new (s.toList.map .stmt) (s'.toList.map .stmt) := by
  cases s with
  | none => cases mem
  | some s =>
    obtain ⟨s', h, rfl⟩ := List.mem_map.mp mem
    exact stmt h

theorem block {b b' : Block} (mem : b' ∈ b.insertions new) :
    ChildrenChange new b.children b'.children := by
  obtain ⟨ss, span⟩ := b
  obtain ⟨ss', h, rfl⟩ := List.mem_map.mp mem
  exact stmts h

theorem caseClause {c c' : CaseClause} (mem : c' ∈ c.insertions new) :
    ChildrenChange new c.children c'.children := by
  obtain ⟨exprs, body, span⟩ := c
  rcases List.mem_append.mp mem with mem | mem <;> obtain ⟨x, h, rfl⟩ := List.mem_map.mp mem
  · exact (ChildrenChange.exprs h).append_right (body.map .stmt)
  · exact (stmts h).append_left (exprs.map .expr)

theorem commClause {c c' : CommClause} (mem : c' ∈ c.insertions new) :
    ChildrenChange new c.children c'.children := by
  obtain ⟨comm, body, span⟩ := c
  rcases List.mem_append.mp mem with mem | mem <;> obtain ⟨x, h, rfl⟩ := List.mem_map.mp mem
  · exact (optionalStmt h).append_right (body.map .stmt)
  · exact (stmts h).append_left (comm.toList.map .stmt)

theorem caseClauses {cs cs' : List CaseClause} (h : cs' ∈ caseClausesInsertions new cs) :
    ChildrenChange new (cs.flatMap CaseClause.children) (cs'.flatMap CaseClause.children) := by
  rw [caseClausesInsertions_eq, mem_oneReplaced_iff] at h
  obtain ⟨before, c, c', after, rfl, h, rfl⟩ := h
  simpa using ((caseClause h).append_right (after.flatMap CaseClause.children)).append_left
    (before.flatMap CaseClause.children)

theorem commClauses {cs cs' : List CommClause} (h : cs' ∈ commClausesInsertions new cs) :
    ChildrenChange new (cs.flatMap CommClause.children) (cs'.flatMap CommClause.children) := by
  rw [commClausesInsertions_eq, mem_oneReplaced_iff] at h
  obtain ⟨before, c, c', after, rfl, h, rfl⟩ := h
  simpa using ((commClause h).append_right (after.flatMap CommClause.children)).append_left
    (before.flatMap CommClause.children)

end ChildrenChange

open ChildrenChange in
/-- The children of an expression change in one place: one case for each constructor. -/
theorem Expr.children_insertion {new : List Stmt} {e e' : Expr} (mem : e' ∈ e.insertions new) :
    ChildrenChange new e.children e'.children := by
  cases e with
  | ident | literal => cases mem
  | selector base member span =>
    obtain ⟨base', h, rfl⟩ := List.mem_map.mp mem
    exact .expr h
  | call callee args type span =>
    rcases List.mem_append.mp mem with mem | mem <;> obtain ⟨x, h, rfl⟩ := List.mem_map.mp mem
    · exact (ChildrenChange.expr h).append_right (args.map .expr)
    · exact (exprs h).append_left [.expr callee]
  | funcLit body span =>
    obtain ⟨body', h, rfl⟩ := List.mem_map.mp mem
    exact block h
  | unary op operand span =>
    obtain ⟨operand', h, rfl⟩ := List.mem_map.mp mem
    exact .expr h
  | binary op left right span =>
    rcases List.mem_append.mp mem with mem | mem <;> obtain ⟨x, h, rfl⟩ := List.mem_map.mp mem
    · exact (ChildrenChange.expr h).append_right [.expr right]
    · exact (ChildrenChange.expr h).append_left [.expr left]
  | composite type elements span =>
    obtain ⟨elements', h, rfl⟩ := List.mem_map.mp mem
    exact exprs h
  | keyValue key value span =>
    rcases List.mem_append.mp mem with mem | mem <;> obtain ⟨x, h, rfl⟩ := List.mem_map.mp mem
    · exact (ChildrenChange.expr h).append_right [.expr value]
    · exact (ChildrenChange.expr h).append_left [.expr key]
  | index base place span =>
    rcases List.mem_append.mp mem with mem | mem <;> obtain ⟨x, h, rfl⟩ := List.mem_map.mp mem
    · exact (ChildrenChange.expr h).append_right [.expr place]
    · exact (ChildrenChange.expr h).append_left [.expr base]
  | typeAssert base type span =>
    obtain ⟨base', h, rfl⟩ := List.mem_map.mp mem
    exact .expr h
  | paren inner span =>
    obtain ⟨inner', h, rfl⟩ := List.mem_map.mp mem
    exact .expr h

open ChildrenChange in
/-- The children of a statement change in one place. -/
theorem Stmt.children_insertion {new : List Stmt} {s s' : Stmt} (mem : s' ∈ s.insertions new) :
    ChildrenChange new s.children s'.children := by
  cases s with
  | assign targets values define span =>
    rcases List.mem_append.mp mem with mem | mem <;> obtain ⟨x, h, rfl⟩ := List.mem_map.mp mem
    · exact (exprs h).append_right (values.map .expr)
    · exact (exprs h).append_left (targets.map .expr)
  | var names type values span =>
    obtain ⟨values', h, rfl⟩ := List.mem_map.mp mem
    exact exprs h
  | expr e =>
    obtain ⟨e', h, rfl⟩ := List.mem_map.mp mem
    exact .expr h
  | block b =>
    obtain ⟨b', h, rfl⟩ := List.mem_map.mp mem
    exact .block h
  | cond init test body otherwise span =>
    simp only [insertions, List.mem_append, List.mem_map] at mem
    rcases mem with ((⟨init', h, rfl⟩ | ⟨test', h, rfl⟩) | ⟨body', h, rfl⟩) | ⟨otherwise', h, rfl⟩
    · exact ((optionalStmt h).append_right _).append_right _
    · exact (((ChildrenChange.expr h).append_right _).append_left _).append_right _
    · exact (((ChildrenChange.block h).append_left [.expr test]).append_left _).append_right _
    · exact (optionalStmt h).append_left _
  | loop init test post body span =>
    simp only [insertions, List.mem_append, List.mem_map] at mem
    rcases mem with ((⟨init', h, rfl⟩ | ⟨test', h, rfl⟩) | ⟨post', h, rfl⟩) | ⟨body', h, rfl⟩
    · exact (((optionalStmt h).append_right _).append_right _).append_right _
    · exact (((optionalExpr h).append_left _).append_right _).append_right _
    · exact ((optionalStmt h).append_left _).append_right _
    · exact (ChildrenChange.block h).append_left _
  | range key value operand body span =>
    simp only [insertions, List.mem_append, List.mem_map] at mem
    rcases mem with ((⟨key', h, rfl⟩ | ⟨value', h, rfl⟩) | ⟨operand', h, rfl⟩) | ⟨body', h, rfl⟩
    · exact ((optionalExpr h).append_right _).append_right _
    · exact ((optionalExpr h).append_left _).append_right _
    · exact ((ChildrenChange.expr h).append_right _).append_left _
    · exact ((ChildrenChange.block h).append_left [.expr operand]).append_left _
  | switch init tag cases span =>
    simp only [insertions, List.mem_append, List.mem_map] at mem
    rcases mem with (⟨init', h, rfl⟩ | ⟨tag', h, rfl⟩) | ⟨cases', h, rfl⟩
    · exact ((optionalStmt h).append_right _).append_right _
    · exact ((optionalExpr h).append_left _).append_right _
    · exact (caseClauses h).append_left _
  | typeSwitch init subject cases span =>
    simp only [insertions, List.mem_append, List.mem_map] at mem
    rcases mem with (⟨init', h, rfl⟩ | ⟨subject', h, rfl⟩) | ⟨cases', h, rfl⟩
    · exact (optionalStmt h).append_right _
    · exact ((stmt h).append_right _).append_left _
    · exact ((caseClauses h).append_left [.stmt subject]).append_left _
  | select cases span =>
    obtain ⟨cases', h, rfl⟩ := List.mem_map.mp mem
    exact commClauses h
  | labeled label s span =>
    obtain ⟨s', h, rfl⟩ := List.mem_map.mp mem
    exact stmt h
  | ret results span =>
    obtain ⟨results', h, rfl⟩ := List.mem_map.mp mem
    exact exprs h
  | deferred call span | spawned call span =>
    obtain ⟨call', h, rfl⟩ := List.mem_map.mp mem
    exact .expr h
  | incDec target span =>
    obtain ⟨target', h, rfl⟩ := List.mem_map.mp mem
    exact .expr h
  | jump => cases mem

theorem Node.children_insertion {new : List Stmt} {n n' : Node} (mem : n' ∈ n.insertions new) :
    ChildrenChange new n.children n'.children := by
  cases n with
  | expr e =>
    obtain ⟨e', h, rfl⟩ := List.mem_map.mp mem
    exact e.children_insertion h
  | stmt s =>
    obtain ⟨s', h, rfl⟩ := List.mem_map.mp mem
    exact s.children_insertion h

/-! ### Views -/

section Views

variable {new : List Stmt}

theorem Expr.ident?_insertion {e e' : Expr} (mem : e' ∈ e.insertions new) :
    e'.ident? = e.ident? := by
  cases e <;> simp only [insertions, List.mem_append, List.mem_map, List.not_mem_nil] at mem <;>
    grind [ident?]

theorem Expr.member?_insertion {e e' : Expr} (mem : e' ∈ e.insertions new) :
    e'.member? = e.member? := by
  cases e <;> simp only [insertions, List.mem_append, List.mem_map, List.not_mem_nil] at mem <;>
    grind [member?]

theorem Expr.face_insertion {e e' : Expr} (mem : e' ∈ e.insertions new) : e'.face = e.face := by
  cases e <;> simp only [insertions, List.mem_append, List.mem_map, List.not_mem_nil] at mem <;>
    grind [face, ident?_insertion, member?_insertion]

theorem map_face_insertion {es es' : List Expr} (mem : es' ∈ exprsInsertions new es) :
    es'.map Expr.face = es.map Expr.face := by
  rw [exprsInsertions_eq, mem_oneReplaced_iff] at mem
  obtain ⟨before, e, e', after, rfl, h, rfl⟩ := mem
  rw [List.map_append, List.map_append, List.map_cons, List.map_cons, Expr.face_insertion h]

theorem Node.view_insertion {n n' : Node} (mem : n' ∈ n.insertions new) : n'.view = n.view := by
  cases n with
  | expr e =>
    obtain ⟨e', h, rfl⟩ := List.mem_map.mp mem
    exact congrArg View.expr (Expr.face_insertion h)
  | stmt s =>
    obtain ⟨s', h, rfl⟩ := List.mem_map.mp mem
    cases s <;>
      simp only [Stmt.insertions, List.mem_append, List.mem_map, List.not_mem_nil] at h <;>
      grind [view, map_face_insertion]

/-- The second list is the first one with `run` put in at one position. -/
def Inserted {α : Type} (run as as' : List α) : Prop :=
  ∃ before after, as = before ++ after ∧ as' = before ++ run ++ after

theorem stmtsInner_eq_nodes (ss : List Stmt) :
    stmtsInner ss = (ss.map .stmt).flatMap Node.nodes := by
  rw [stmtsInner_eq, funext Node.nodes_eq_preorder]

/-- If the walk below each child shows the new nodes in one run, so does the walk below all. -/
theorem ChildrenChange.views {ns ns' : List Node} (change : ChildrenChange new ns ns')
    (below : ∀ c ∈ ns, ∀ c' ∈ c.insertions new,
      Inserted ((stmtsInner new).map Node.view) (c.nodes.map Node.view) (c'.nodes.map Node.view)) :
    Inserted ((stmtsInner new).map Node.view) ((ns.flatMap Node.nodes).map Node.view)
      ((ns'.flatMap Node.nodes).map Node.view) := by
  cases change with
  | insert left right =>
    refine ⟨(left.flatMap Node.nodes).map Node.view, (right.flatMap Node.nodes).map Node.view,
      ?_, ?_⟩
    · rw [List.flatMap_append, List.map_append]
    · rw [List.flatMap_append, List.flatMap_append, List.map_append, List.map_append,
        stmtsInner_eq_nodes]
  | @inside left right c c' h =>
    obtain ⟨before, after, old, young⟩ := below c (by simp) c' h
    refine ⟨(left.flatMap Node.nodes).map Node.view ++ before,
      after ++ (right.flatMap Node.nodes).map Node.view, ?_, ?_⟩
    · simp [old]
    · simp [young]

/-- The walk below a node shows what it showed, and the new nodes in one run. -/
theorem Node.views_insertion {n n' : Node} (mem : n' ∈ n.insertions new) :
    Inserted ((stmtsInner new).map view) (n.nodes.map view) (n'.nodes.map view) := by
  induction n using induction_on_children generalizing n' with
  | step n ih =>
    -- the node itself is seen as before; the run lies below one child or among the children
    obtain ⟨before, after, old, young⟩ := (children_insertion mem).views fun c hc _ => ih c hc
    refine ⟨n.view :: before, after, ?_, ?_⟩
    · rw [nodes_eq, List.map_cons, old, List.cons_append]
    · rw [nodes_eq, List.map_cons, young, view_insertion mem, List.cons_append, List.cons_append]

theorem Block.views_insertion {b b' : Block} (mem : b' ∈ b.insertions new) :
    Inserted ((stmtsInner new).map Node.view) (b.nodes.map Node.view) (b'.nodes.map Node.view) :=
  (ChildrenChange.block mem).views fun _ _ _ => Node.views_insertion

end Views

end PaginationLint
