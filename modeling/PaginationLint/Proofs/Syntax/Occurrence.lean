import PaginationLint.Proofs.Syntax.Handling

/-!
Where nodes stand.

`Part` has a rule for every place of the grammar where a statement or an expression can stand, and
nothing else; `Block.Contains` follows it to any depth. The walk through a body meets exactly the
nodes that the body contains. The main statement is what this means for the handling of pagination:
it is there iff the body contains a node that reads a token field from the variable, or one that
calls a paginator, which serves every variable alike.
-/

namespace PaginationLint

/-! ### Direct parts -/

/-- A block is made of statements. -/
inductive Block.Part : Block → Node → Prop
  | stmt {stmts span s} (h : s ∈ stmts) : Block.Part (.mk stmts span) (.stmt s)

/-- A case of a switch is made of its expressions and its body. -/
inductive CaseClause.Part : CaseClause → Node → Prop
  | expr {exprs body span e} (h : e ∈ exprs) : CaseClause.Part (.mk exprs body span) (.expr e)
  | stmt {exprs body span s} (h : s ∈ body) : CaseClause.Part (.mk exprs body span) (.stmt s)

/-- A case of a select is made of its communication and its body. -/
inductive CommClause.Part : CommClause → Node → Prop
  | comm {comm body span} : CommClause.Part (.mk (some comm) body span) (.stmt comm)
  | stmt {comm body span s} (h : s ∈ body) : CommClause.Part (.mk comm body span) (.stmt s)

/-- What an expression is made of. Names and literals have no parts. -/
inductive Expr.Part : Expr → Node → Prop
  | base {base member span} : Expr.Part (.selector base member span) (.expr base)
  | callee {callee args type span} : Expr.Part (.call callee args type span) (.expr callee)
  | arg {callee args type span a} (h : a ∈ args) :
    Expr.Part (.call callee args type span) (.expr a)
  | funcLit {body span n} (h : body.Part n) : Expr.Part (.funcLit body span) n
  | operand {op operand span} : Expr.Part (.unary op operand span) (.expr operand)
  | left {op left right span} : Expr.Part (.binary op left right span) (.expr left)
  | right {op left right span} : Expr.Part (.binary op left right span) (.expr right)
  | element {type elements span e} (h : e ∈ elements) :
    Expr.Part (.composite type elements span) (.expr e)
  | key {key value span} : Expr.Part (.keyValue key value span) (.expr key)
  | value {key value span} : Expr.Part (.keyValue key value span) (.expr value)
  | indexed {base place span} : Expr.Part (.index base place span) (.expr base)
  | place {base place span} : Expr.Part (.index base place span) (.expr place)
  | asserted {base type span} : Expr.Part (.typeAssert base type span) (.expr base)
  | paren {inner span} : Expr.Part (.paren inner span) (.expr inner)

/-- What a statement is made of. A jump has no parts. -/
inductive Stmt.Part : Stmt → Node → Prop
  | target {targets values define span e} (h : e ∈ targets) :
    Stmt.Part (.assign targets values define span) (.expr e)
  | value {targets values define span e} (h : e ∈ values) :
    Stmt.Part (.assign targets values define span) (.expr e)
  | varValue {names type values span e} (h : e ∈ values) :
    Stmt.Part (.var names type values span) (.expr e)
  | expr {e} : Stmt.Part (.expr e) (.expr e)
  | block {b n} (h : b.Part n) : Stmt.Part (.block b) n
  | condInit {init test body otherwise span} :
    Stmt.Part (.cond (some init) test body otherwise span) (.stmt init)
  | condTest {init test body otherwise span} :
    Stmt.Part (.cond init test body otherwise span) (.expr test)
  | condBody {init test body otherwise span n} (h : body.Part n) :
    Stmt.Part (.cond init test body otherwise span) n
  | otherwise {init test body otherwise span} :
    Stmt.Part (.cond init test body (some otherwise) span) (.stmt otherwise)
  | loopInit {init test post body span} :
    Stmt.Part (.loop (some init) test post body span) (.stmt init)
  | loopTest {init test post body span} :
    Stmt.Part (.loop init (some test) post body span) (.expr test)
  | loopPost {init test post body span} :
    Stmt.Part (.loop init test (some post) body span) (.stmt post)
  | loopBody {init test post body span n} (h : body.Part n) :
    Stmt.Part (.loop init test post body span) n
  | rangeKey {key value operand body span} :
    Stmt.Part (.range (some key) value operand body span) (.expr key)
  | rangeValue {key value operand body span} :
    Stmt.Part (.range key (some value) operand body span) (.expr value)
  | rangeOperand {key value operand body span} :
    Stmt.Part (.range key value operand body span) (.expr operand)
  | rangeBody {key value operand body span n} (h : body.Part n) :
    Stmt.Part (.range key value operand body span) n
  | switchInit {init tag cases span} :
    Stmt.Part (.switch (some init) tag cases span) (.stmt init)
  | switchTag {init tag cases span} : Stmt.Part (.switch init (some tag) cases span) (.expr tag)
  | switchCase {init tag cases span c n} (hc : c ∈ cases) (h : c.Part n) :
    Stmt.Part (.switch init tag cases span) n
  | typeSwitchInit {init subject cases span} :
    Stmt.Part (.typeSwitch (some init) subject cases span) (.stmt init)
  | subject {init subject cases span} :
    Stmt.Part (.typeSwitch init subject cases span) (.stmt subject)
  | typeSwitchCase {init subject cases span c n} (hc : c ∈ cases) (h : c.Part n) :
    Stmt.Part (.typeSwitch init subject cases span) n
  | selectCase {cases span c n} (hc : c ∈ cases) (h : c.Part n) :
    Stmt.Part (.select cases span) n
  | labeled {label stmt span} : Stmt.Part (.labeled label stmt span) (.stmt stmt)
  | result {results span e} (h : e ∈ results) : Stmt.Part (.ret results span) (.expr e)
  | deferred {call span} : Stmt.Part (.deferred call span) (.expr call)
  | spawned {call span} : Stmt.Part (.spawned call span) (.expr call)
  | counted {target span} : Stmt.Part (.incDec target span) (.expr target)

/-- What a node is made of. -/
def Node.Part : Node → Node → Prop
  | .expr e => e.Part
  | .stmt s => s.Part

/-! ### Parts are children -/

theorem Block.mem_children_iff {b : Block} {n : Node} : n ∈ b.children ↔ b.Part n := by
  obtain ⟨stmts, span⟩ := b
  constructor
  · intro h
    obtain ⟨s, hs, rfl⟩ := List.mem_map.mp h
    exact .stmt hs
  · rintro ⟨h⟩
    exact List.mem_map_of_mem h

theorem CaseClause.mem_children_iff {c : CaseClause} {n : Node} : n ∈ c.children ↔ c.Part n := by
  obtain ⟨exprs, body, span⟩ := c
  simp only [children, List.mem_append, List.mem_map]
  constructor
  · rintro (⟨e, he, rfl⟩ | ⟨s, hs, rfl⟩)
    · exact .expr he
    · exact .stmt hs
  · rintro (h | h)
    · exact .inl ⟨_, h, rfl⟩
    · exact .inr ⟨_, h, rfl⟩

theorem CommClause.mem_children_iff {c : CommClause} {n : Node} : n ∈ c.children ↔ c.Part n := by
  obtain ⟨comm, body, span⟩ := c
  simp only [children, List.mem_append, List.mem_map, Option.mem_toList]
  constructor
  · rintro (⟨s, rfl, rfl⟩ | ⟨s, hs, rfl⟩)
    · exact .comm
    · exact .stmt hs
  · rintro (_ | h)
    · exact .inl ⟨_, rfl, rfl⟩
    · exact .inr ⟨_, h, rfl⟩

theorem Expr.mem_children_iff {e : Expr} {n : Node} : n ∈ e.children ↔ e.Part n := by
  constructor
  · intro h
    -- the children of each constructor, field by field, and the rule for each field
    cases e <;> simp only [children, List.mem_cons, List.mem_map, Block.mem_children_iff,
      List.not_mem_nil, or_false] at h <;> grind [Expr.Part]
  · rintro ⟨⟩ <;> simp_all [children, Block.mem_children_iff]

theorem Stmt.mem_children_iff {s : Stmt} {n : Node} : n ∈ s.children ↔ s.Part n := by
  constructor
  · intro h
    cases s <;> simp only [children, List.mem_append, List.mem_cons, List.mem_map,
      List.mem_flatMap, Option.mem_toList, Block.mem_children_iff, CaseClause.mem_children_iff,
      CommClause.mem_children_iff, List.not_mem_nil, or_false] at h <;> grind [Stmt.Part]
  · intro h
    cases h with
    -- a part of a clause is not a child of its own but one of all that the clauses hand on
    | switchCase hc h | typeSwitchCase hc h =>
      have inside := List.mem_flatMap.mpr ⟨_, hc, CaseClause.mem_children_iff.mpr h⟩
      simp [children, inside]
    | selectCase hc h => exact List.mem_flatMap.mpr ⟨_, hc, CommClause.mem_children_iff.mpr h⟩
    | _ => simp_all [children, Block.mem_children_iff]

theorem Node.mem_children_iff {n m : Node} : m ∈ n.children ↔ n.Part m := by
  cases n with
  | expr e => exact Expr.mem_children_iff
  | stmt s => exact Stmt.mem_children_iff

/-! ### Parts at any depth -/

/-- A block contains its statements and the parts of all nodes that it contains. -/
inductive Block.Contains (b : Block) : Node → Prop
  | stmt {s : Stmt} (h : s ∈ b.stmts) : b.Contains (.stmt s)
  | part {n m : Node} (h : b.Contains n) (part : n.Part m) : b.Contains m

namespace Block

variable {b : Block} {n m : Node}

/-- The walk from a node that the block contains does not leave the block. -/
theorem Contains.of_mem_nodes (h : b.Contains n) (hm : m ∈ n.nodes) : b.Contains m := by
  induction n using Node.induction_on_children with
  | step n ih =>
    rw [Node.nodes_eq] at hm
    rcases List.mem_cons.mp hm with rfl | hm
    · exact h
    · obtain ⟨c, hc, hm⟩ := List.mem_flatMap.mp hm
      exact ih c hc (h.part (Node.mem_children_iff.mp hc)) hm

/-- What a block contains is what lies inside it. -/
theorem mem_inner_iff : n ∈ b.inner ↔ b.Contains n := by
  rw [← nodes_eq_inner]
  constructor
  · intro h
    obtain ⟨c, hc, hn⟩ := List.mem_flatMap.mp h
    obtain ⟨s, hs, rfl⟩ := List.mem_map.mp hc
    exact (Contains.stmt hs).of_mem_nodes hn
  · intro h
    induction h with
    | @stmt s hs =>
      refine List.mem_flatMap.mpr ⟨.stmt s, List.mem_map_of_mem hs, ?_⟩
      rw [Node.nodes_eq]
      exact List.mem_cons_self
    | part _ part ih => exact child_mem_nodes ih (Node.mem_children_iff.mpr part)

/-! ### Handling -/

theorem handles_iff_contains {holder : String} {fields : List String} :
    b.handles holder fields = true ↔
      (∃ n, b.Contains n ∧ n.ReadsToken holder fields) ∨ ∃ n, b.Contains n ∧ n.CallsPaginator := by
  simp only [handles_iff, mem_inner_iff]

/-- Where no fields are looked for nothing is read, whatever the variable, and what is left is a call
of a paginator. -/
theorem handles_nil_iff (holder : String) :
    b.handles holder [] = true ↔ ∃ n, b.Contains n ∧ n.CallsPaginator := by
  rw [handles_iff_contains]
  constructor
  · rintro (⟨n, _, place, member, span, _, wanted⟩ | called)
    · cases wanted
    · exact called
  · exact .inr

/-- Statements one after another handle what either of the two lists handles. -/
theorem handles_append (stmts later : List Stmt) (span span' span'' : Span) (holder : String)
    (fields : List String) :
    (Block.mk (stmts ++ later) span).handles holder fields =
      ((Block.mk stmts span').handles holder fields ||
        (Block.mk later span'').handles holder fields) := by
  simp only [handles, nodes, children, Block.stmts, List.map_append, List.flatMap_append,
    List.any_append]

/-- The scan of a body is exact: it finds a token read from the variable or a call of a paginator iff
the body contains one. The latter is found for all variables and fields or for none, and more
statements add what they handle themselves. -/
theorem handles_exact (body : Block) :
    (∀ holder fields, body.handles holder fields = true ↔
      (∃ n, body.Contains n ∧ n.ReadsToken holder fields) ∨
        ∃ n, body.Contains n ∧ n.CallsPaginator) ∧
    ((∀ holder fields, body.handles holder fields = true) ↔
      ∃ n, body.Contains n ∧ n.CallsPaginator) ∧
    (∀ later span span' holder fields,
      (Block.mk (body.stmts ++ later) span).handles holder fields =
        (body.handles holder fields || (Block.mk later span').handles holder fields)) := by
  refine ⟨fun holder fields => handles_iff_contains, ⟨?_, ?_⟩, ?_⟩
  · intro always
    exact (handles_nil_iff "").mp (always "" [])
  · intro called holder fields
    exact handles_iff_contains.mpr (.inr called)
  · intro later span span' holder fields
    obtain ⟨stmts, place⟩ := body
    exact handles_append stmts later span place span' holder fields

end Block

end PaginationLint
