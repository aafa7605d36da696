import PaginationLint.Wire.Shape

/-!
The records and variants of the wire format, field by field.
-/

namespace PaginationLint.Wire

/-- A field that has to be there. -/
def required (key : String) (shape : Shape) : FieldSpec := ⟨key, shape, .refused⟩

/-- A field that may be missing or `null`. -/
def optional (key : String) (shape : Shape) : FieldSpec := ⟨key, shape, .allowed⟩

/-- A list that is empty if it is missing. -/
def listOf (key : String) (item : Shape) : FieldSpec := ⟨key, .list item, .filled (.list [])⟩

/-- A flag that is off if it is missing. -/
def flag (key : String) : FieldSpec := ⟨key, .flag, .filled (.flag false)⟩

/-- The span that stands for a missing one. -/
def emptySpan : Datum := .record .span [.word 0, .word 0]

/-- The span of a node. -/
def spanField : FieldSpec := ⟨"span", .record .span, .filled emptySpan⟩

def exprShape : Shape := .variant .expr

def stmtShape : Shape := .variant .stmt

def blockShape : Shape := .record .block

namespace RecordKind

/-- The name of a record in messages. -/
def title : RecordKind → String
  | .unit => "struct Unit"
  | .file => "struct SourceFile"
  | .func => "struct FuncDecl"
  | .identifier => "struct Identifier"
  | .block => "struct Block"
  | .caseClause => "struct CaseClause"
  | .commClause => "struct CommClause"
  | .field => "struct Field"
  | .span => "struct Span"
  | .settings => "struct Settings"

/-- The fields of a record. -/
def fields : RecordKind → List FieldSpec
  | .unit =>
    [⟨"package", .text, .filled (.text "")⟩, listOf "types" (.variant .type),
      listOf "files" (.record .file)]
  | .file => [required "path" .text, optional "source" .text, listOf "decls" (.variant .decl)]
  | .func =>
    [required "name" (.record .identifier), optional "receiver" .text, optional "body" blockShape,
      spanField]
  | .identifier => [required "name" .text, spanField]
  | .block => [listOf "stmts" stmtShape, spanField]
  | .caseClause => [listOf "exprs" exprShape, listOf "body" stmtShape, spanField]
  | .commClause => [optional "comm" stmtShape, listOf "body" stmtShape, spanField]
  | .field => [required "name" .text, required "type" .word, flag "embedded"]
  | .span => [required "start" .word, required "end" .word]
  | .settings => [listOf "custom-fields" .text, flag "include-tests"]

/-- Are keys that are no fields refused, rather than passed over? -/
def isClosed : RecordKind → Bool
  | .settings => true
  | _ => false

end RecordKind

/-- The variants of declarations. -/
def declVariants : List Variant :=
  [⟨"func", RecordKind.func.title, RecordKind.func.fields⟩,
    ⟨"var", "struct variant Decl::Var",
      [listOf "names" (.record .identifier), listOf "values" exprShape, spanField]⟩]

/-- The variants of statements. -/
def stmtVariants : List Variant :=
  [⟨"assign", "struct variant Stmt::Assign",
      [required "lhs" (.list exprShape), required "rhs" (.list exprShape), flag "define",
        spanField]⟩,
    ⟨"var", "struct variant Stmt::Var",
      [required "names" (.list (.record .identifier)), optional "ty" .word,
        listOf "values" exprShape, spanField]⟩,
    ⟨"expr", "struct variant Stmt::Expr", [required "expr" exprShape]⟩,
    ⟨"block", "struct variant Stmt::Block", [required "block" blockShape]⟩,
    ⟨"if", "struct variant Stmt::If",
      [optional "init" stmtShape, required "cond" exprShape, required "then" blockShape,
        optional "else" stmtShape, spanField]⟩,
    ⟨"for", "struct variant Stmt::For",
      [optional "init" stmtShape, optional "cond" exprShape, optional "post" stmtShape,
        required "body" blockShape, spanField]⟩,
    ⟨"range", "struct variant Stmt::Range",
      [optional "key" exprShape, optional "value" exprShape, required "expr" exprShape,
        required "body" blockShape, spanField]⟩,
    ⟨"switch", "struct variant Stmt::Switch",
      [optional "init" stmtShape, optional "tag" exprShape, listOf "cases" (.record .caseClause),
        spanField]⟩,
    ⟨"type_switch", "struct variant Stmt::TypeSwitch",
      [optional "init" stmtShape, required "assign" stmtShape, listOf "cases" (.record .caseClause),
        spanField]⟩,
    ⟨"select", "struct variant Stmt::Select", [listOf "cases" (.record .commClause), spanField]⟩,
    ⟨"labeled", "struct variant Stmt::Labeled",
      [required "label" (.record .identifier), required "stmt" stmtShape, spanField]⟩,
    ⟨"return", "struct variant Stmt::Return", [listOf "results" exprShape, spanField]⟩,
    ⟨"defer", "struct variant Stmt::Defer", [required "call" exprShape, spanField]⟩,
    ⟨"go", "struct variant Stmt::Go", [required "call" exprShape, spanField]⟩,
    ⟨"inc_dec", "struct variant Stmt::IncDec", [required "target" exprShape, spanField]⟩,
    ⟨"branch", "struct variant Stmt::Branch",
      [required "keyword" .text, optional "label" .text, spanField]⟩]

/-- The variants of expressions. -/
def exprVariants : List Variant :=
  [⟨"ident", "struct variant Expr::Ident", [required "name" .text, spanField]⟩,
    ⟨"selector", "struct variant Expr::Selector",
      [required "base" exprShape, required "member" (.record .identifier), spanField]⟩,
    ⟨"call", "struct variant Expr::Call",
      [required "callee" exprShape, listOf "args" exprShape, optional "ty" .word, spanField]⟩,
    ⟨"func_lit", "struct variant Expr::FuncLit", [required "body" blockShape, spanField]⟩,
    ⟨"unary", "struct variant Expr::Unary",
      [required "op" .text, required "operand" exprShape, spanField]⟩,
    ⟨"binary", "struct variant Expr::Binary",
      [required "op" .text, required "lhs" exprShape, required "rhs" exprShape, spanField]⟩,
    ⟨"composite", "struct variant Expr::Composite",
      [optional "ty" .word, listOf "elements" exprShape, spanField]⟩,
    ⟨"key_value", "struct variant Expr::KeyValue",
      [required "key" exprShape, required "value" exprShape, spanField]⟩,
    ⟨"index", "struct variant Expr::Index",
      [required "base" exprShape, required "index" exprShape, spanField]⟩,
    ⟨"type_assert", "struct variant Expr::TypeAssert",
      [required "base" exprShape, optional "ty" .word, spanField]⟩,
    ⟨"paren", "struct variant Expr::Paren", [required "inner" exprShape, spanField]⟩,
    ⟨"literal", "struct variant Expr::Literal", [required "value" .text, spanField]⟩]

/-- The variants of types. -/
def typeVariants : List Variant :=
  [⟨"pointer", "struct variant Type::Pointer", [required "elem" .word]⟩,
    ⟨"named", "struct variant Type::Named",
      [required "name" .text, optional "package" .text, required "underlying" .word]⟩,
    ⟨"struct", "struct variant Type::Struct", [listOf "fields" (.record .field)]⟩,
    ⟨"tuple", "struct variant Type::Tuple", [listOf "elems" .word]⟩,
    ⟨"slice", "struct variant Type::Slice", [required "elem" .word]⟩,
    ⟨"map", "struct variant Type::Map", [required "key" .word, required "value" .word]⟩,
    ⟨"interface", "struct variant Type::Interface", [listOf "methods" .text]⟩,
    ⟨"basic", "struct variant Type::Basic", [required "name" .text]⟩]

namespace Family

/-- The name of a family in messages. -/
def title : Family → String
  | .decl => "Decl"
  | .stmt => "Stmt"
  | .expr => "Expr"
  | .type => "Type"

/-- The variants of a family, in the order of their index. -/
def variants : Family → List Variant
  | .decl => declVariants
  | .stmt => stmtVariants
  | .expr => exprVariants
  | .type => typeVariants

end Family

end PaginationLint.Wire
