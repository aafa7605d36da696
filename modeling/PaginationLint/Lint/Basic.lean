import PaginationLint.Lint.Diagnostic
import PaginationLint.Result.Message
import PaginationLint.Result.Origin
import PaginationLint.Result.TokenField
import PaginationLint.Settings.Config
import PaginationLint.Syntax.Handling

/-!
The lint.

Every assignment in a function pairs targets with values. A value that is a call whose result has
pagination token fields and comes from the SDK is a finding, unless the whole function handles
pagination of the variable it is assigned to. What is seen on the way is kept as a list of
observations, of which the findings are part.
-/

namespace PaginationLint

/-- Ending of the paths of test files. -/
def testSuffix : String := "_test.go"

/-- Is this the path of a test file? -/
def isTestFile (path : String) : Bool := testSuffix.toList.isSuffixOf path.toList

/-- What the lint sees in a file. -/
inductive Observation where
  /-- A test file that is left out. -/
  | skippedTest (file : String)
  /-- An assignment in no function declaration. -/
  | outsideFunction (file : String)
  /-- A call whose result has no known type. -/
  | unresolved (file : String) (offset : UInt32)
  /-- A paginated result that does not come from the SDK. -/
  | foreign (file : String) (offset : UInt32)
  /-- A paginated result that is not handled. -/
  | unhandled (function holder : String) (finding : Diagnostic)
  deriving DecidableEq, Repr

/-- The finding of an observation. -/
def Observation.finding? : Observation → Option Diagnostic
  | .unhandled _ _ finding => some finding
  | _ => none

/-- The variable that a target of an assignment binds. -/
def boundName? (target : Expr) : Option String :=
  target.ident?.filter fun name => !isBlankName name

namespace Lint

/-- The function in which an assignment stands. -/
structure Scope where
  types : TypeTable
  tokenFields : List String
  file : String
  function : String
  body : Block

/-- Judges a value and its target. -/
def judge (scope : Scope) (target : Expr) : Expr → Option Observation
  | .call callee _ type span =>
    match type.bind scope.types.resultType? with
    | none => some (.unresolved scope.file span.start)
    | some result =>
      let site := CallSite.of scope.types callee result
      let fields := scope.types.applicableTokenFields result site.service scope.tokenFields
      if fields.isEmpty then none
      else if !scope.types.isTrusted result then some (.foreign scope.file span.start)
      else
        match boundName? target with
        | none => none
        | some holder =>
          if scope.body.handles holder fields then none
          else
            some (.unhandled scope.function holder
              { file := scope.file, span := span
                message := Message.build fields (some holder) site })
  | _ => none

/-- What an assignment in a function shows, value by value. -/
def judgeNode (scope : Scope) : Node → List Observation
  | .stmt (.assign targets values _ _) =>
    (targets.zip values).filterMap fun pair => judge scope pair.1 pair.2
  | _ => []

/-- What an assignment outside of functions shows. -/
def judgeOutside (file : String) : Node → List Observation
  | .stmt (.assign _ _ _ _) => [.outsideFunction file]
  | _ => []

/-- What a declaration shows. -/
def observeDecl (types : TypeTable) (tokenFields : List String) (file : String) :
    Decl → List Observation
  | .func f =>
    match f.body with
    | some body => body.nodes.flatMap (judgeNode ⟨types, tokenFields, file, f.name.name, body⟩)
    | none => []
  | .var _ values _ => (values.flatMap Expr.nodes).flatMap (judgeOutside file)

/-- What a file shows. -/
def observeFile (types : TypeTable) (config : Config) (file : SourceFile) : List Observation :=
  if !config.includeTests && isTestFile file.path then [.skippedTest file.path]
  else file.decls.flatMap (observeDecl types config.tokenFields file.path)

/-- What a unit shows, in the order of its source. -/
def observe (u : ProgramUnit) (config : Config) : List Observation :=
  u.files.flatMap (observeFile u.types config)

end Lint

/-- The findings in a unit, in the order of its source. -/
def lint (u : ProgramUnit) (config : Config) : List Diagnostic :=
  (Lint.observe u config).filterMap Observation.finding?

end PaginationLint
