import PaginationLint.Sdk.Package
import PaginationLint.Syntax.Basic

/-!
What a call tells about itself.

The method is known if the callee is a selector; type and service are known if the result, or what
it points to, is a declared type.
-/

namespace PaginationLint

/-- A call, as far as it is known. -/
structure CallSite where
  method : Option String := none
  type : Option String := none
  service : Option String := none
  deriving DecidableEq, Repr, Inhabited

namespace CallSite

/-- The call of `callee` with a result of type `result`. -/
def of (types : TypeTable) (callee : Expr) (result : TypeId) : CallSite where
  method := match callee with
    | .selector _ member _ => some member.name
    | _ => none
  type := (types.named? (types.deref result)).map Prod.fst
  service := do
    let (_, package) ← types.named? (types.deref result)
    serviceName (← package)

end CallSite

/-- The type of the value to look at: the first of several results. -/
def TypeTable.resultType? (t : TypeTable) (id : TypeId) : Option TypeId :=
  match t.get? id with
  | some (.tuple elems) => elems.head?
  | _ => some id

end PaginationLint
