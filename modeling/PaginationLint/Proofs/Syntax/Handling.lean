import Mathlib.Data.List.Infix
import PaginationLint.Proofs.Syntax.Preorder
import PaginationLint.Syntax.Handling

/-!
When a body handles pagination.

A body handles the result in a variable iff, at whatever depth, it reads one of the token fields
from the variable, or it calls something through a selector with the name of a paginator.
-/

namespace PaginationLint

/-- The names of paginators: the two methods, and what has something in front of the suffix. -/
def PaginatorName (name : String) : Prop :=
  name = "HasMorePages" ∨ name = "NextPage" ∨ ∃ stem, stem ≠ "" ∧ name = stem ++ "Paginator"

/-- The node is `holder.member`, and the member is one of the fields. -/
def Node.ReadsToken (holder : String) (fields : List String) (n : Node) : Prop :=
  ∃ place member span, n = .expr (.selector (.ident holder place) member span) ∧
    member.name ∈ fields

/-- The node is a call `base.member(args)`, and the member has the name of a paginator. -/
def Node.CallsPaginator (n : Node) : Prop :=
  ∃ base member place args type span,
    n = .expr (.call (.selector base member place) args type span) ∧ PaginatorName member.name

/-- A name ends in the suffix and is not all of it iff something stands in front of it. -/
theorem proper_suffix_iff (suffix name : String) :
    suffix.toList <:+ name.toList ∧ name ≠ suffix ↔ ∃ stem, stem ≠ "" ∧ name = stem ++ suffix := by
  constructor
  · rintro ⟨⟨stem, h⟩, hne⟩
    have split : name = String.ofList stem ++ suffix := by
      rw [← String.toList_inj, String.toList_append, String.toList_ofList, h]
    refine ⟨String.ofList stem, fun empty => hne ?_, split⟩
    rw [split, empty, String.empty_append]
  · rintro ⟨stem, hne, rfl⟩
    rw [String.toList_append]
    refine ⟨List.suffix_append _ _, fun same => hne ?_⟩
    have lengths := congrArg List.length (congrArg String.toList same)
    rw [String.toList_append, List.length_append] at lengths
    exact String.toList_eq_nil_iff.mp (List.length_eq_zero_iff.mp (by omega))

theorem isPaginatorName_iff (name : String) : isPaginatorName name = true ↔ PaginatorName name := by
  have suffixed := proper_suffix_iff paginatorSuffix name
  simp only [isPaginatorName, Bool.or_eq_true, Bool.and_eq_true, bne_iff_ne, beq_iff_eq,
    List.isSuffixOf_iff_suffix, suffixed]
  rw [or_assoc, or_comm, or_assoc]
  exact Iff.rfl

namespace Expr

theorem ident?_eq_some_iff {e : Expr} {name : String} :
    e.ident? = some name ↔ ∃ place, e = .ident name place := by
  cases e <;> simp [ident?]

theorem readsToken_iff {holder : String} {fields : List String} {e : Expr} :
    e.readsToken holder fields = true ↔ (Node.expr e).ReadsToken holder fields := by
  cases e with
  | selector base member span =>
    simp only [readsToken, Bool.and_eq_true, beq_iff_eq, ident?_eq_some_iff,
      List.contains_iff_mem, Node.ReadsToken]
    constructor
    · rintro ⟨⟨place, rfl⟩, h⟩
      exact ⟨place, member, span, rfl, h⟩
    · rintro ⟨place, _, _, ⟨⟩, h⟩
      exact ⟨⟨place, rfl⟩, h⟩
  | _ => simp [readsToken, Node.ReadsToken]

theorem usesPaginator_iff {e : Expr} :
    e.usesPaginator = true ↔ (Node.expr e).CallsPaginator := by
  constructor
  · intro h
    unfold usesPaginator at h
    split at h
    · exact ⟨_, _, _, _, _, _, rfl, (isPaginatorName_iff _).mp h⟩
    · cases h
  · rintro ⟨base, member, place, args, type, span, ⟨⟩, h⟩
    exact (isPaginatorName_iff _).mpr h

end Expr

theorem Node.handles_iff {holder : String} {fields : List String} {n : Node} :
    n.handles holder fields = true ↔ n.ReadsToken holder fields ∨ n.CallsPaginator := by
  cases n with
  | stmt s => simp [handles, ReadsToken, CallsPaginator]
  | expr e => rw [handles, Bool.or_eq_true, Expr.readsToken_iff, Expr.usesPaginator_iff]

/-- A body handles pagination iff a node inside it reads a token field or calls a paginator. -/
theorem Block.handles_iff {body : Block} {holder : String} {fields : List String} :
    body.handles holder fields = true ↔
      (∃ n ∈ body.inner, n.ReadsToken holder fields) ∨ ∃ n ∈ body.inner, n.CallsPaginator := by
  simp only [Block.handles, List.any_eq_true, Block.nodes_eq_inner, Node.handles_iff, and_or_left,
    exists_or]

end PaginationLint
