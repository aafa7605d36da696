import PaginationLint.Syntax.Handling

/-!
What is seen of a node.

Of the syntax inside a node a judgement sees one level: a name, a member and the name it is selected
from, a method with the type and the span of its call. The view of a node holds that much and leaves
out all else; what handles pagination can be told from the views of the nodes.
-/

namespace PaginationLint

/-- What is seen of an expression. -/
inductive Face where
  | ident (name : String)
  | selector (base : Option String) (member : String)
  | call (method : Option String) (type : Option TypeId) (span : Span)
  | other
  deriving DecidableEq

/-- What is seen of a node. -/
inductive View where
  | expr (face : Face)
  | assign (targets values : List Face)
  | stmt
  deriving DecidableEq

/-- The member that a selector selects. -/
def Expr.member? : Expr → Option String
  | .selector _ member _ => some member.name
  | _ => none

def Expr.face : Expr → Face
  | .ident name _ => .ident name
  | .selector base member _ => .selector base.ident? member.name
  | .call callee _ type span => .call callee.member? type span
  | _ => .other

def Node.view : Node → View
  | .expr e => .expr e.face
  | .stmt (.assign targets values _ _) => .assign (targets.map Expr.face) (values.map Expr.face)
  | .stmt _ => .stmt

namespace Expr

theorem face_eq_ident_iff {e : Expr} {name : String} :
    e.face = .ident name ↔ ∃ place, e = .ident name place := by
  cases e <;> simp [face]

theorem face_eq_call_iff {e : Expr} {method : Option String} {type : Option TypeId} {span : Span} :
    e.face = .call method type span ↔
      ∃ callee args, e = .call callee args type span ∧ callee.member? = method := by
  cases e with
  | call callee args type' span' =>
    simp only [face, Face.call.injEq, Expr.call.injEq]
    constructor
    · rintro ⟨method, rfl, rfl⟩
      exact ⟨callee, args, ⟨rfl, rfl, rfl, rfl⟩, method⟩
    · rintro ⟨_, _, ⟨rfl, rfl, rfl, rfl⟩, method⟩
      exact ⟨method, rfl, rfl⟩
  | _ => simp [face]

end Expr

/-- Does a node with this view handle pagination? -/
def View.handles (holder : String) (fields : List String) : View → Bool
  | .expr (.selector base member) => base == some holder && fields.contains member
  | .expr (.call method _ _) => method.any isPaginatorName
  | _ => false

theorem Node.handles_eq_view (holder : String) (fields : List String) (n : Node) :
    n.handles holder fields = n.view.handles holder fields := by
  cases n with
  | stmt s => cases s <;> rfl
  | expr e =>
    cases e with
    | selector base member span => exact Bool.or_false _
    | call callee args type span => cases callee <;> rfl
    | _ => rfl

/-- Bodies with the same views handle the same. -/
theorem Block.handles_eq_views (b : Block) (holder : String) (fields : List String) :
    b.handles holder fields = (b.nodes.map Node.view).any (View.handles holder fields) := by
  rw [Block.handles, List.any_map]
  congr 1
  exact funext (Node.handles_eq_view holder fields)

end PaginationLint
