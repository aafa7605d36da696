import PaginationLint.Syntax.Node

/-!
Handling of pagination in a function body.

A body handles a paginated result if it reads one of the token fields from the variable that holds
the result, or if it calls anything that is named like a paginator, whatever the variable.
-/

namespace PaginationLint

/-- The end of the names of functions that make a paginator. -/
def paginatorSuffix : String := "Paginator"

/-- Is this a name of a paginator's constructor or of one of its methods? The bare suffix is not. -/
def isPaginatorName (name : String) : Bool :=
  (paginatorSuffix.toList.isSuffixOf name.toList && name != paginatorSuffix)
    || name == "HasMorePages" || name == "NextPage"

/-- Does this read one of the fields from the variable? -/
def Expr.readsToken (holder : String) (fields : List String) : Expr → Bool
  | .selector base member _ => base.ident? == some holder && fields.contains member.name
  | _ => false

/-- Is this a call of a paginator? -/
def Expr.usesPaginator : Expr → Bool
  | .call (.selector _ member _) _ _ _ => isPaginatorName member.name
  | _ => false

/-- Does this node handle pagination? -/
def Node.handles (holder : String) (fields : List String) : Node → Bool
  | .expr e => e.readsToken holder fields || e.usesPaginator
  | .stmt _ => false

/-- Does the body handle pagination of the result in `holder`? -/
def Block.handles (body : Block) (holder : String) (fields : List String) : Bool :=
  body.nodes.any (Node.handles holder fields)

end PaginationLint
