import PaginationLint.Types.Table
import Std.Data.HashSet

/-!
Depth-first search through the fields of structs.

A search looks at types one after another: it strips one pointer, passes over a type it has seen,
asks for an answer there, and goes on to the types of the fields that it follows, in an order of its
own. Types that are no structs have no fields to follow, so only ids inside the table can add to the
work; each does so once, and therefore a search ends on every table.
-/

namespace PaginationLint

namespace TypeTable

/-- The types of those fields of a struct that a search follows, first to last. -/
def members (t : TypeTable) (follows : List Field → List Field) (id : TypeId) : List TypeId :=
  match t.structFields? id with
  | some fields => (follows fields).map Field.type
  | none => []

/-- The ids of a table. -/
def ids (t : TypeTable) : List TypeId := (List.range t.size).map fun i => ⟨UInt32.ofNat i⟩

/-- The ids of a table that a search has not seen. -/
def unseen (t : TypeTable) (seen : Std.HashSet TypeId) : List TypeId :=
  t.ids.filter fun id => !seen.contains id

theorem mem_ids {t : TypeTable} {id : TypeId} (h : id.index.toNat < t.size) : id ∈ t.ids := by
  refine List.mem_map.mpr ⟨id.index.toNat, List.mem_range.mpr h, ?_⟩
  rw [UInt32.ofNat_toNat]

theorem unseen_insert (t : TypeTable) (seen : Std.HashSet TypeId) (id : TypeId) :
    t.unseen (seen.insert id) = (t.unseen seen).filter (· != id) := by
  rw [unseen, unseen, List.filter_filter]
  congr 1
  funext x
  rw [Std.HashSet.contains_insert, Bool.not_or, bne, BEq.comm]

theorem length_unseen_insert_le (t : TypeTable) (seen : Std.HashSet TypeId) (id : TypeId) :
    (t.unseen (seen.insert id)).length ≤ (t.unseen seen).length := by
  rw [unseen_insert]
  exact List.length_filter_le _ _

theorem length_unseen_insert_lt {t : TypeTable} {seen : Std.HashSet TypeId} {id : TypeId}
    (h : id.index.toNat < t.size) (fresh : id ∉ seen) :
    (t.unseen (seen.insert id)).length < (t.unseen seen).length := by
  rw [unseen_insert]
  refine List.length_filter_lt_length_iff_exists.mpr ⟨id, ?_, by simp⟩
  exact List.mem_filter.mpr ⟨mem_ids h, by simpa using fresh⟩

theorem members_eq_nil_of_size_le {t : TypeTable} {follows : List Field → List Field} {id : TypeId}
    (h : t.size ≤ id.index.toNat) : t.members follows id = [] := by
  rw [members, structFields?_eq_none_of_size_le h]

/-- The first answer met on the way from the ids of `stack`, without those in `seen`. -/
def searchFrom {α : Type} (t : TypeTable) (follows : List Field → List Field)
    (answer : TypeId → Option α) (seen : Std.HashSet TypeId) (stack : List TypeId) : Option α :=
  match stack with
  | [] => none
  | top :: rest =>
    if t.deref top ∈ seen then t.searchFrom follows answer seen rest
    else
      match answer (t.deref top) with
      | some a => some a
      | none =>
        t.searchFrom follows answer (seen.insert (t.deref top))
          (t.members follows (t.deref top) ++ rest)
termination_by ((t.unseen seen).length, stack.length)
decreasing_by
  · exact Prod.Lex.right _ (Nat.lt_succ_self _)
  · next fresh =>
    rcases Nat.lt_or_ge (t.deref top).index.toNat t.size with inside | outside
    · exact Prod.Lex.left _ _ (length_unseen_insert_lt inside fresh)
    · rw [members_eq_nil_of_size_le outside]
      rcases Nat.lt_or_eq_of_le (length_unseen_insert_le t seen (t.deref top)) with h | h
      · exact Prod.Lex.left _ _ h
      · rw [h]
        exact Prod.Lex.right _ (Nat.lt_succ_self _)

/-- The first answer met on the way from `id`. -/
def search {α : Type} (t : TypeTable) (follows : List Field → List Field)
    (answer : TypeId → Option α) (id : TypeId) : Option α :=
  t.searchFrom follows answer ∅ [id]

end TypeTable

end PaginationLint
