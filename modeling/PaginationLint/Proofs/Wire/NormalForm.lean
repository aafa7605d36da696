import PaginationLint.Proofs.Syntax.Preorder
import PaginationLint.Wire.Syntax

/-!
Values and their normal forms.

The normal form of a value gives back the value: `ofDatum` undoes `toDatum`, for every type that has
a place in the wire format. Normal forms can be told apart.
-/

namespace PaginationLint

open Wire

namespace Wire.Datum

@[simp] theorem toText_text (s : String) : (Datum.text s).toText = s := rfl

@[simp] theorem toFlag_flag (b : Bool) : (Datum.flag b).toFlag = b := rfl

@[simp] theorem toItems_list (xs : List Datum) : (Datum.list xs).toItems = xs := rfl

/-- An optional field gives back its value if the values themselves come back and are not absent. -/
theorem toOptional_ofOptional {α : Type} {write : α → Datum} {read : Datum → α} {a : Option α}
    (present : ∀ b ∈ a, (write b).isAbsent = false) (back : ∀ b ∈ a, read (write b) = b) :
    (Datum.ofOptional write a).toOptional read = a := by
  cases a with
  | none => rfl
  | some b => simp [ofOptional, toOptional, present b rfl, back b rfl]

@[simp] theorem toOptional_text (s : Option String) :
    (Datum.ofOptional .text s).toOptional toText = s :=
  toOptional_ofOptional (fun _ _ => rfl) fun _ _ => rfl

theorem map_ofDatum_toDatum {α : Type} {write : α → Datum} {read : Datum → α} {as : List α}
    (back : ∀ a ∈ as, read (write a) = a) : (as.map write).map read = as := by
  rw [List.map_map]
  exact (List.map_congr_left back).trans (List.map_id as)

mutual

/-- Are two normal forms the same? -/
def isSame : Datum → Datum → Bool
  | .word m, .word n => m == n
  | .text s, .text t => s == t
  | .flag b, .flag c => b == c
  | .absent, .absent => true
  | .list xs, .list ys => areSame xs ys
  | .record kind xs, .record kind' ys => kind == kind' && areSame xs ys
  | .variant family i xs, .variant family' j ys => family == family' && i == j && areSame xs ys
  | _, _ => false

/-- Are two lists of normal forms the same? -/
def areSame : List Datum → List Datum → Bool
  | [], [] => true
  | x :: xs, y :: ys => isSame x y && areSame xs ys
  | _, _ => false

end

mutual

theorem isSame_iff : ∀ x y : Datum, x.isSame y = true ↔ x = y
  | .word _, y | .text _, y | .flag _, y | .absent, y => by cases y <;> simp [isSame]
  | .list xs, y => by cases y <;> simp [isSame, areSame_iff xs]
  | .record _ xs, y => by cases y <;> simp [isSame, areSame_iff xs]
  | .variant _ _ xs, y => by cases y <;> simp [isSame, areSame_iff xs, and_assoc]

theorem areSame_iff : ∀ xs ys : List Datum, areSame xs ys = true ↔ xs = ys
  | [], ys => by cases ys <;> simp [areSame]
  | x :: xs, ys => by cases ys <;> simp [areSame, isSame_iff x, areSame_iff xs]

end

instance : DecidableEq Datum := fun x y => decidable_of_iff _ (isSame_iff x y)

end Wire.Datum

open Wire.Datum

/-! ### Spans and types -/

@[simp] theorem Span.ofDatum_toDatum (s : Span) : Span.ofDatum s.toDatum = s := rfl

@[simp] theorem TypeId.ofDatum_toDatum (id : TypeId) : TypeId.ofDatum id.toDatum = id := rfl

@[simp] theorem TypeId.toOptional_toDatum (id : Option TypeId) :
    (Datum.ofOptional TypeId.toDatum id).toOptional TypeId.ofDatum = id :=
  toOptional_ofOptional (fun _ _ => rfl) fun _ _ => rfl

@[simp] theorem Field.ofDatum_toDatum (f : Field) : Field.ofDatum f.toDatum = f := rfl

theorem Ty.ofDatum_toDatum (t : Ty) : Ty.ofDatum t.toDatum = t := by
  cases t <;> simp [Ty.toDatum, Ty.ofDatum, Function.comp_def]

/-! ### Lists and options of the grammar -/

@[simp] theorem Identifier.ofDatum_toDatum (i : Identifier) :
    Identifier.ofDatum i.toDatum = i := rfl

theorem exprsToData_eq : ∀ es : List Expr, exprsToData es = es.map Expr.toDatum
  | [] => rfl
  | e :: es => by rw [exprsToData, exprsToData_eq es, List.map_cons]

theorem stmtsToData_eq : ∀ ss : List Stmt, stmtsToData ss = ss.map Stmt.toDatum
  | [] => rfl
  | s :: ss => by rw [stmtsToData, stmtsToData_eq ss, List.map_cons]

theorem caseClausesToData_eq : ∀ cs : List CaseClause,
    caseClausesToData cs = cs.map CaseClause.toDatum
  | [] => rfl
  | c :: cs => by rw [caseClausesToData, caseClausesToData_eq cs, List.map_cons]

theorem commClausesToData_eq : ∀ cs : List CommClause,
    commClausesToData cs = cs.map CommClause.toDatum
  | [] => rfl
  | c :: cs => by rw [commClausesToData, commClausesToData_eq cs, List.map_cons]

theorem exprsOfData_eq : ∀ xs : List Datum, exprsOfData xs = xs.map Expr.ofDatum
  | [] => rfl
  | x :: xs => by rw [exprsOfData, exprsOfData_eq xs, List.map_cons]

theorem stmtsOfData_eq : ∀ xs : List Datum, stmtsOfData xs = xs.map Stmt.ofDatum
  | [] => rfl
  | x :: xs => by rw [stmtsOfData, stmtsOfData_eq xs, List.map_cons]

theorem Expr.isAbsent_toDatum (e : Expr) : e.toDatum.isAbsent = false := by
  cases e <;> rfl

theorem Stmt.isAbsent_toDatum (s : Stmt) : s.toDatum.isAbsent = false := by
  cases s <;> rfl

/-! ### Syntax trees -/

/-- The node comes back from its normal form. -/
def Node.Recovered : Node → Prop
  | .expr e => Expr.ofDatum e.toDatum = e
  | .stmt s => Stmt.ofDatum s.toDatum = s

theorem exprs_recovered {es : List Expr} (h : (es.map Node.expr).Forall Node.Recovered) :
    exprsOfData (exprsToData es) = es := by
  rw [List.forall_map_iff, List.forall_iff_forall_mem] at h
  rw [exprsToData_eq, exprsOfData_eq]
  exact map_ofDatum_toDatum h

theorem stmts_recovered {ss : List Stmt} (h : (ss.map Node.stmt).Forall Node.Recovered) :
    stmtsOfData (stmtsToData ss) = ss := by
  rw [List.forall_map_iff, List.forall_iff_forall_mem] at h
  rw [stmtsToData_eq, stmtsOfData_eq]
  exact map_ofDatum_toDatum h

theorem optionalExpr_recovered {e : Option Expr}
    (h : (e.toList.map Node.expr).Forall Node.Recovered) :
    (if (optionalExprToDatum e).isAbsent then none
      else some (Expr.ofDatum (optionalExprToDatum e))) = e := by
  cases e with
  | none => rfl
  | some e => simpa [optionalExprToDatum, e.isAbsent_toDatum, Node.Recovered] using h

theorem optionalStmt_recovered {s : Option Stmt}
    (h : (s.toList.map Node.stmt).Forall Node.Recovered) :
    (if (optionalStmtToDatum s).isAbsent then none
      else some (Stmt.ofDatum (optionalStmtToDatum s))) = s := by
  cases s with
  | none => rfl
  | some s => simpa [optionalStmtToDatum, s.isAbsent_toDatum, Node.Recovered] using h

theorem Block.recovered {b : Block} (h : b.children.Forall Node.Recovered) :
    Block.ofDatum b.toDatum = b := by
  obtain ⟨stmts, span⟩ := b
  have back : stmtsOfData (stmtsToData stmts) = stmts := stmts_recovered h
  rw [Block.toDatum, Block.ofDatum, back, Span.ofDatum_toDatum]

theorem CaseClause.recovered {c : CaseClause} (h : c.children.Forall Node.Recovered) :
    CaseClause.ofDatum c.toDatum = c := by
  obtain ⟨exprs, body, span⟩ := c
  rw [CaseClause.children, List.forall_append] at h
  rw [CaseClause.toDatum, CaseClause.ofDatum, exprs_recovered h.1, stmts_recovered h.2,
    Span.ofDatum_toDatum]

theorem CommClause.recovered {c : CommClause} (h : c.children.Forall Node.Recovered) :
    CommClause.ofDatum c.toDatum = c := by
  obtain ⟨comm, body, span⟩ := c
  rw [CommClause.children, List.forall_append] at h
  rw [CommClause.toDatum, CommClause.ofDatum, optionalStmt_recovered h.1, stmts_recovered h.2,
    Span.ofDatum_toDatum]

theorem caseClauses_recovered : ∀ {cs : List CaseClause},
    (cs.flatMap CaseClause.children).Forall Node.Recovered →
      caseClausesOfData (caseClausesToData cs) = cs
  | [], _ => rfl
  | c :: cs, h => by
    rw [List.flatMap_cons, List.forall_append] at h
    rw [caseClausesToData, caseClausesOfData, c.recovered h.1, caseClauses_recovered h.2]

theorem commClauses_recovered : ∀ {cs : List CommClause},
    (cs.flatMap CommClause.children).Forall Node.Recovered →
      commClausesOfData (commClausesToData cs) = cs
  | [], _ => rfl
  | c :: cs, h => by
    rw [List.flatMap_cons, List.forall_append] at h
    rw [commClausesToData, commClausesOfData, c.recovered h.1, commClauses_recovered h.2]

theorem names_recovered (names : List Identifier) :
    (Datum.list (names.map Identifier.toDatum)).toItems.map Identifier.ofDatum = names :=
  map_ofDatum_toDatum fun i _ => i.ofDatum_toDatum

theorem Expr.recovered {e : Expr} (h : e.children.Forall Node.Recovered) :
    Expr.ofDatum e.toDatum = e := by
  cases e <;>
    simp only [Expr.children, List.forall_cons, Node.Recovered] at h <;>
    simp only [Expr.toDatum, Expr.ofDatum, toText_text, Span.ofDatum_toDatum,
      Identifier.ofDatum_toDatum, TypeId.toOptional_toDatum, exprs_recovered, Block.recovered, h]

theorem Stmt.recovered {s : Stmt} (h : s.children.Forall Node.Recovered) :
    Stmt.ofDatum s.toDatum = s := by
  cases s <;>
    simp only [Stmt.children, List.forall_append, List.forall_cons, Node.Recovered] at h <;>
    simp only [Stmt.toDatum, Stmt.ofDatum, toText_text, toFlag_flag, Span.ofDatum_toDatum,
      Identifier.ofDatum_toDatum, toOptional_text, TypeId.toOptional_toDatum, names_recovered,
      exprs_recovered, optionalExpr_recovered, optionalStmt_recovered, caseClauses_recovered,
      commClauses_recovered, Block.recovered, h]

/-- A node comes back if its children do: one case for each constructor of the grammar. -/
theorem Node.recovered (n : Node) : n.Recovered := by
  induction n using induction_on_children with
  | step n ih =>
    have children := List.forall_iff_forall_mem.mpr ih
    cases n with
    | expr e => exact e.recovered children
    | stmt s => exact s.recovered children

theorem Expr.ofDatum_toDatum (e : Expr) : Expr.ofDatum e.toDatum = e := (Node.expr e).recovered

theorem Stmt.ofDatum_toDatum (s : Stmt) : Stmt.ofDatum s.toDatum = s := (Node.stmt s).recovered

theorem Block.ofDatum_toDatum (b : Block) : Block.ofDatum b.toDatum = b :=
  b.recovered (List.forall_iff_forall_mem.mpr fun n _ => n.recovered)

/-! ### Declarations, files and units -/

theorem FuncDecl.ofData_toData (f : FuncDecl) : FuncDecl.ofData f.toData = f := by
  have body : (Datum.ofOptional Block.toDatum f.body).toOptional Block.ofDatum = f.body :=
    toOptional_ofOptional (fun ⟨_, _⟩ _ => rfl) fun b _ => b.ofDatum_toDatum
  simp [toData, ofData, body]

theorem Decl.ofDatum_toDatum (d : Decl) : Decl.ofDatum d.toDatum = d := by
  cases d with
  | func f => rw [toDatum, ofDatum, f.ofData_toData]
  | var names values span =>
    have back : exprsOfData (exprsToData values) = values :=
      exprs_recovered (List.forall_iff_forall_mem.mpr fun n _ => n.recovered)
    rw [toDatum, ofDatum, names_recovered, toItems_list, back, Span.ofDatum_toDatum]

theorem SourceFile.ofDatum_toDatum (f : SourceFile) : SourceFile.ofDatum f.toDatum = f := by
  simp [toDatum, ofDatum, Function.comp_def, Decl.ofDatum_toDatum]

theorem TypeTable.ofDatum_toDatum (t : TypeTable) : TypeTable.ofDatum t.toDatum = t := by
  simp [toDatum, ofDatum, Function.comp_def, Ty.ofDatum_toDatum]

theorem ProgramUnit.ofDatum_toDatum (u : ProgramUnit) : ProgramUnit.ofDatum u.toDatum = u := by
  simp [toDatum, ofDatum, Function.comp_def, SourceFile.ofDatum_toDatum,
    TypeTable.ofDatum_toDatum]

end PaginationLint
