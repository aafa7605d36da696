import PaginationLint.Syntax.Basic
import PaginationLint.Wire.Types

/-!
Syntax on the wire.

`toDatum` gives the normal form of a syntax tree, and `ofDatum` takes it back. A datum that is not
of the right shape stands for a default.
-/

namespace PaginationLint

open Wire

namespace Identifier

def toDatum (i : Identifier) : Datum := .record .identifier [.text i.name, i.span.toDatum]

def ofDatum : Datum → Identifier
  | .record _ [name, span] => ⟨name.toText, .ofDatum span⟩
  | _ => default

end Identifier

/-! ### Normal forms of syntax trees -/

mutual

def Expr.toDatum : Expr → Datum
  | .ident name span => .variant .expr 0 [.text name, span.toDatum]
  | .selector base member span =>
    .variant .expr 1 [base.toDatum, member.toDatum, span.toDatum]
  | .call callee args type span =>
    .variant .expr 2
      [callee.toDatum, .list (exprsToData args), .ofOptional TypeId.toDatum type, span.toDatum]
  | .funcLit body span => .variant .expr 3 [body.toDatum, span.toDatum]
  | .unary op operand span => .variant .expr 4 [.text op, operand.toDatum, span.toDatum]
  | .binary op left right span =>
    .variant .expr 5 [.text op, left.toDatum, right.toDatum, span.toDatum]
  | .composite type elements span =>
    .variant .expr 6
      [.ofOptional TypeId.toDatum type, .list (exprsToData elements), span.toDatum]
  | .keyValue key value span => .variant .expr 7 [key.toDatum, value.toDatum, span.toDatum]
  | .index base place span => .variant .expr 8 [base.toDatum, place.toDatum, span.toDatum]
  | .typeAssert base type span =>
    .variant .expr 9 [base.toDatum, .ofOptional TypeId.toDatum type, span.toDatum]
  | .paren inner span => .variant .expr 10 [inner.toDatum, span.toDatum]
  | .literal value span => .variant .expr 11 [.text value, span.toDatum]

def Stmt.toDatum : Stmt → Datum
  | .assign targets values define span =>
    .variant .stmt 0
      [.list (exprsToData targets), .list (exprsToData values), .flag define, span.toDatum]
  | .var names type values span =>
    .variant .stmt 1
      [.list (names.map Identifier.toDatum), .ofOptional TypeId.toDatum type,
        .list (exprsToData values), span.toDatum]
  | .expr e => .variant .stmt 2 [e.toDatum]
  | .block b => .variant .stmt 3 [b.toDatum]
  | .cond init test body otherwise span =>
    .variant .stmt 4
      [optionalStmtToDatum init, test.toDatum, body.toDatum, optionalStmtToDatum otherwise,
        span.toDatum]
  | .loop init test post body span =>
    .variant .stmt 5
      [optionalStmtToDatum init, optionalExprToDatum test, optionalStmtToDatum post, body.toDatum,
        span.toDatum]
  | .range key value operand body span =>
    .variant .stmt 6
      [optionalExprToDatum key, optionalExprToDatum value, operand.toDatum, body.toDatum,
        span.toDatum]
  | .switch init tag cases span =>
    .variant .stmt 7
      [optionalStmtToDatum init, optionalExprToDatum tag, .list (caseClausesToData cases),
        span.toDatum]
  | .typeSwitch init subject cases span =>
    .variant .stmt 8
      [optionalStmtToDatum init, subject.toDatum, .list (caseClausesToData cases), span.toDatum]
  | .select cases span => .variant .stmt 9 [.list (commClausesToData cases), span.toDatum]
  | .labeled label stmt span => .variant .stmt 10 [label.toDatum, stmt.toDatum, span.toDatum]
  | .ret results span => .variant .stmt 11 [.list (exprsToData results), span.toDatum]
  | .deferred call span => .variant .stmt 12 [call.toDatum, span.toDatum]
  | .spawned call span => .variant .stmt 13 [call.toDatum, span.toDatum]
  | .incDec target span => .variant .stmt 14 [target.toDatum, span.toDatum]
  | .jump keyword label span =>
    .variant .stmt 15 [.text keyword, .ofOptional .text label, span.toDatum]

def Block.toDatum : Block → Datum
  | .mk stmts span => .record .block [.list (stmtsToData stmts), span.toDatum]

def CaseClause.toDatum : CaseClause → Datum
  | .mk exprs body span =>
    .record .caseClause [.list (exprsToData exprs), .list (stmtsToData body), span.toDatum]

def CommClause.toDatum : CommClause → Datum
  | .mk comm body span =>
    .record .commClause [optionalStmtToDatum comm, .list (stmtsToData body), span.toDatum]

def exprsToData : List Expr → List Datum
  | [] => []
  | e :: es => e.toDatum :: exprsToData es

def stmtsToData : List Stmt → List Datum
  | [] => []
  | s :: ss => s.toDatum :: stmtsToData ss

def caseClausesToData : List CaseClause → List Datum
  | [] => []
  | c :: cs => c.toDatum :: caseClausesToData cs

def commClausesToData : List CommClause → List Datum
  | [] => []
  | c :: cs => c.toDatum :: commClausesToData cs

def optionalExprToDatum : Option Expr → Datum
  | none => .absent
  | some e => e.toDatum

def optionalStmtToDatum : Option Stmt → Datum
  | none => .absent
  | some s => s.toDatum

end

/-! ### Syntax trees of normal forms -/

mutual

def Expr.ofDatum : Datum → Expr
  | .variant _ 0 [name, span] => .ident name.toText (.ofDatum span)
  | .variant _ 1 [base, member, span] =>
    .selector (Expr.ofDatum base) (.ofDatum member) (.ofDatum span)
  | .variant _ 2 [callee, .list args, type, span] =>
    .call (Expr.ofDatum callee) (exprsOfData args) (type.toOptional TypeId.ofDatum) (.ofDatum span)
  | .variant _ 3 [body, span] => .funcLit (Block.ofDatum body) (.ofDatum span)
  | .variant _ 4 [op, operand, span] => .unary op.toText (Expr.ofDatum operand) (.ofDatum span)
  | .variant _ 5 [op, left, right, span] =>
    .binary op.toText (Expr.ofDatum left) (Expr.ofDatum right) (.ofDatum span)
  | .variant _ 6 [type, .list elements, span] =>
    .composite (type.toOptional TypeId.ofDatum) (exprsOfData elements) (.ofDatum span)
  | .variant _ 7 [key, value, span] =>
    .keyValue (Expr.ofDatum key) (Expr.ofDatum value) (.ofDatum span)
  | .variant _ 8 [base, place, span] =>
    .index (Expr.ofDatum base) (Expr.ofDatum place) (.ofDatum span)
  | .variant _ 9 [base, type, span] =>
    .typeAssert (Expr.ofDatum base) (type.toOptional TypeId.ofDatum) (.ofDatum span)
  | .variant _ 10 [inner, span] => .paren (Expr.ofDatum inner) (.ofDatum span)
  | .variant _ 11 [value, span] => .literal value.toText (.ofDatum span)
  | _ => default

def Stmt.ofDatum : Datum → Stmt
  | .variant _ 0 [.list targets, .list values, define, span] =>
    .assign (exprsOfData targets) (exprsOfData values) define.toFlag (.ofDatum span)
  | .variant _ 1 [names, type, .list values, span] =>
    .var (names.toItems.map Identifier.ofDatum) (type.toOptional TypeId.ofDatum)
      (exprsOfData values) (.ofDatum span)
  | .variant _ 2 [e] => .expr (Expr.ofDatum e)
  | .variant _ 3 [b] => .block (Block.ofDatum b)
  | .variant _ 4 [init, test, body, otherwise, span] =>
    .cond (if init.isAbsent then none else some (Stmt.ofDatum init)) (Expr.ofDatum test)
      (Block.ofDatum body) (if otherwise.isAbsent then none else some (Stmt.ofDatum otherwise))
      (.ofDatum span)
  | .variant _ 5 [init, test, post, body, span] =>
    .loop (if init.isAbsent then none else some (Stmt.ofDatum init))
      (if test.isAbsent then none else some (Expr.ofDatum test))
      (if post.isAbsent then none else some (Stmt.ofDatum post)) (Block.ofDatum body)
      (.ofDatum span)
  | .variant _ 6 [key, value, operand, body, span] =>
    .range (if key.isAbsent then none else some (Expr.ofDatum key))
      (if value.isAbsent then none else some (Expr.ofDatum value)) (Expr.ofDatum operand)
      (Block.ofDatum body) (.ofDatum span)
  | .variant _ 7 [init, tag, .list cases, span] =>
    .switch (if init.isAbsent then none else some (Stmt.ofDatum init))
      (if tag.isAbsent then none else some (Expr.ofDatum tag)) (caseClausesOfData cases)
      (.ofDatum span)
  | .variant _ 8 [init, subject, .list cases, span] =>
    .typeSwitch (if init.isAbsent then none else some (Stmt.ofDatum init)) (Stmt.ofDatum subject)
      (caseClausesOfData cases) (.ofDatum span)
  | .variant _ 9 [.list cases, span] => .select (commClausesOfData cases) (.ofDatum span)
  | .variant _ 10 [label, stmt, span] =>
    .labeled (.ofDatum label) (Stmt.ofDatum stmt) (.ofDatum span)
  | .variant _ 11 [.list results, span] => .ret (exprsOfData results) (.ofDatum span)
  | .variant _ 12 [call, span] => .deferred (Expr.ofDatum call) (.ofDatum span)
  | .variant _ 13 [call, span] => .spawned (Expr.ofDatum call) (.ofDatum span)
  | .variant _ 14 [target, span] => .incDec (Expr.ofDatum target) (.ofDatum span)
  | .variant _ 15 [keyword, label, span] =>
    .jump keyword.toText (label.toOptional Datum.toText) (.ofDatum span)
  | _ => default

def Block.ofDatum : Datum → Block
  | .record _ [.list stmts, span] => .mk (stmtsOfData stmts) (.ofDatum span)
  | _ => default

def CaseClause.ofDatum : Datum → CaseClause
  | .record _ [.list exprs, .list body, span] =>
    .mk (exprsOfData exprs) (stmtsOfData body) (.ofDatum span)
  | _ => default

def CommClause.ofDatum : Datum → CommClause
  | .record _ [comm, .list body, span] =>
    .mk (if comm.isAbsent then none else some (Stmt.ofDatum comm)) (stmtsOfData body)
      (.ofDatum span)
  | _ => default

def exprsOfData : List Datum → List Expr
  | [] => []
  | x :: xs => Expr.ofDatum x :: exprsOfData xs

def stmtsOfData : List Datum → List Stmt
  | [] => []
  | x :: xs => Stmt.ofDatum x :: stmtsOfData xs

def caseClausesOfData : List Datum → List CaseClause
  | [] => []
  | x :: xs => CaseClause.ofDatum x :: caseClausesOfData xs

def commClausesOfData : List Datum → List CommClause
  | [] => []
  | x :: xs => CommClause.ofDatum x :: commClausesOfData xs

end

/-! ### Declarations, files and units -/

namespace FuncDecl

/-- The fields of a function on the wire, where it is a record or a variant of a declaration. -/
def toData (f : FuncDecl) : List Datum :=
  [f.name.toDatum, .ofOptional .text f.receiver, .ofOptional Block.toDatum f.body, f.span.toDatum]

def ofData : List Datum → FuncDecl
  | [name, receiver, body, span] =>
    ⟨.ofDatum name, receiver.toOptional Datum.toText, body.toOptional Block.ofDatum, .ofDatum span⟩
  | _ => default

end FuncDecl

namespace Decl

def toDatum : Decl → Datum
  | .func f => .variant .decl 0 f.toData
  | .var names values span =>
    .variant .decl 1
      [.list (names.map Identifier.toDatum), .list (exprsToData values), span.toDatum]

def ofDatum : Datum → Decl
  | .variant _ 0 fields => .func (.ofData fields)
  | .variant _ 1 [names, values, span] =>
    .var (names.toItems.map Identifier.ofDatum) (exprsOfData values.toItems) (.ofDatum span)
  | _ => default

end Decl

namespace SourceFile

def toDatum (f : SourceFile) : Datum :=
  .record .file [.text f.path, .ofOptional .text f.source, .list (f.decls.map Decl.toDatum)]

def ofDatum : Datum → SourceFile
  | .record _ [path, source, decls] =>
    ⟨path.toText, source.toOptional Datum.toText, decls.toItems.map Decl.ofDatum⟩
  | _ => default

end SourceFile

namespace ProgramUnit

def toDatum (u : ProgramUnit) : Datum :=
  .record .unit [.text u.package, u.types.toDatum, .list (u.files.map SourceFile.toDatum)]

def ofDatum : Datum → ProgramUnit
  | .record _ [package, types, files] =>
    ⟨package.toText, .ofDatum types, files.toItems.map SourceFile.ofDatum⟩
  | _ => default

end ProgramUnit

end PaginationLint
