import PaginationLint.Source.Span
import PaginationLint.Types.Table

/-!
The syntax of a program unit.

A unit is one type-checked package: its types, its files and their declarations. Calls refer to the
type of their result by id. Every node has a span, which is empty where none was recorded.
-/

namespace PaginationLint

/-- A name in the source. -/
structure Identifier where
  name : String
  span : Span := {}
  deriving DecidableEq, Repr, Inhabited

/-- The name that discards what is assigned to it. -/
def isBlankName (name : String) : Bool := name == "_"

mutual

/-- An expression. -/
inductive Expr where
  | ident (name : String) (span : Span)
  /-- `base.member`: a field, a method or a name of a package. -/
  | selector (base : Expr) (member : Identifier) (span : Span)
  /-- A call; `type` is the type of its result, a tuple if it has several. -/
  | call (callee : Expr) (args : List Expr) (type : Option TypeId) (span : Span)
  | funcLit (body : Block) (span : Span)
  | unary (op : String) (operand : Expr) (span : Span)
  | binary (op : String) (left right : Expr) (span : Span)
  | composite (type : Option TypeId) (elements : List Expr) (span : Span)
  | keyValue (key value : Expr) (span : Span)
  | index (base index : Expr) (span : Span)
  | typeAssert (base : Expr) (type : Option TypeId) (span : Span)
  | paren (inner : Expr) (span : Span)
  | literal (value : String) (span : Span)

/-- A statement. -/
inductive Stmt where
  /-- `targets := values` if it defines new variables, else `targets = values`. -/
  | assign (targets values : List Expr) (define : Bool) (span : Span)
  | var (names : List Identifier) (type : Option TypeId) (values : List Expr) (span : Span)
  | expr (expr : Expr)
  | block (block : Block)
  /-- `otherwise` is a block or another conditional. -/
  | cond (init : Option Stmt) (test : Expr) (body : Block) (otherwise : Option Stmt) (span : Span)
  | loop (init : Option Stmt) (test : Option Expr) (post : Option Stmt) (body : Block) (span : Span)
  | range (key value : Option Expr) (operand : Expr) (body : Block) (span : Span)
  | switch (init : Option Stmt) (tag : Option Expr) (cases : List CaseClause) (span : Span)
  /-- `subject` assigns or states the value whose type is asked for. -/
  | typeSwitch (init : Option Stmt) (subject : Stmt) (cases : List CaseClause) (span : Span)
  | select (cases : List CommClause) (span : Span)
  | labeled (label : Identifier) (stmt : Stmt) (span : Span)
  | ret (results : List Expr) (span : Span)
  | deferred (call : Expr) (span : Span)
  | spawned (call : Expr) (span : Span)
  | incDec (target : Expr) (span : Span)
  | jump (keyword : String) (label : Option String) (span : Span)

/-- Statements between braces. -/
inductive Block where
  | mk (stmts : List Stmt) (span : Span)

/-- A case of a switch; the default case has no expressions. -/
inductive CaseClause where
  | mk (exprs : List Expr) (body : List Stmt) (span : Span)

/-- A case of a select; the default case has no communication. -/
inductive CommClause where
  | mk (comm : Option Stmt) (body : List Stmt) (span : Span)

end

instance : Inhabited Expr := ⟨.ident "" {}⟩
instance : Inhabited Block := ⟨.mk [] {}⟩
instance : Inhabited Stmt := ⟨.block default⟩
instance : Inhabited CaseClause := ⟨.mk [] [] {}⟩
instance : Inhabited CommClause := ⟨.mk none [] {}⟩

namespace Expr

/-- The span of an expression. -/
def span : Expr → Span
  | .ident _ s | .selector _ _ s | .call _ _ _ s | .funcLit _ s | .unary _ _ s | .binary _ _ _ s
  | .composite _ _ s | .keyValue _ _ s | .index _ _ s | .typeAssert _ _ s | .paren _ s
  | .literal _ s => s

/-- The same expression with another span. -/
def withSpan (s : Span) : Expr → Expr
  | .ident name _ => .ident name s
  | .selector base member _ => .selector base member s
  | .call callee args type _ => .call callee args type s
  | .funcLit body _ => .funcLit body s
  | .unary op operand _ => .unary op operand s
  | .binary op left right _ => .binary op left right s
  | .composite type elements _ => .composite type elements s
  | .keyValue key value _ => .keyValue key value s
  | .index base place _ => .index base place s
  | .typeAssert base type _ => .typeAssert base type s
  | .paren inner _ => .paren inner s
  | .literal value _ => .literal value s

/-- The name of a plain identifier. -/
def ident? : Expr → Option String
  | .ident name _ => some name
  | _ => none

end Expr

namespace Block

/-- The statements of a block. -/
def stmts : Block → List Stmt
  | .mk stmts _ => stmts

/-- The span of a block. -/
def span : Block → Span
  | .mk _ span => span

end Block

/-- A function or method. -/
structure FuncDecl where
  name : Identifier
  /-- How the receiver's type is written, for a method. -/
  receiver : Option String := none
  /-- A function written in another language has no body. -/
  body : Option Block := none
  span : Span := {}
  deriving Inhabited

/-- A declaration of a file. -/
inductive Decl where
  | func (f : FuncDecl)
  | var (names : List Identifier) (values : List Expr) (span : Span)
  deriving Inhabited

/-- A source file. -/
structure SourceFile where
  /-- The path under which findings are reported. -/
  path : String
  /-- Its text, if the unit holds it. -/
  source : Option String := none
  decls : List Decl := []
  deriving Inhabited

/-- One type-checked package. -/
structure ProgramUnit where
  package : String := ""
  types : TypeTable := {}
  files : List SourceFile := []
  deriving Inhabited

/-! ### Nodes without recorded positions -/

namespace Expr

def ofName (name : String) : Expr := .ident name {}

def ofLiteral (value : String) : Expr := .literal value {}

/-- `base.member` -/
def select (base : Expr) (member : String) : Expr := .selector base { name := member } {}

/-- `callee(args)` with a result of the given type. -/
def apply (callee : Expr) (args : List Expr) (type : Option TypeId) : Expr :=
  .call callee args type {}

/-- `left op right` -/
def combine (op : String) (left right : Expr) : Expr := .binary op left right {}

/-- A function literal with the given statements. -/
def ofBody (stmts : List Stmt) : Expr := .funcLit (.mk stmts {}) {}

end Expr

namespace Stmt

/-- `targets := values` -/
def define (targets values : List Expr) : Stmt := .assign targets values true {}

/-- `targets = values` -/
def store (targets values : List Expr) : Stmt := .assign targets values false {}

end Stmt

end PaginationLint
