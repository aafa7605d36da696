import Mathlib.Data.List.Basic
import PaginationLint.Result.TokenField

/-!
The search for a token field, by recursion.

`resolve` looks for the best of the names at a type and then, one after another, at the types of its
embedded fields; `resolveFirst` hands the types seen from one field to the next. The main statement
is that the search with a stack gives what this recursion gives, on every table: what stands on the
stack is the rest of the embedded fields of all structs on the way down, and a type that is shared
among them is looked at where it comes first.
-/

namespace PaginationLint.TypeTable

/-- What has been seen once something has been looked at: nothing is forgotten. -/
abbrev Seen (seen : Std.HashSet TypeId) : Type :=
  { later : Std.HashSet TypeId // ∀ id ∈ seen, id ∈ later }

theorem mem_insert_of_mem {seen : Std.HashSet TypeId} (d : TypeId) :
    ∀ id ∈ seen, id ∈ seen.insert d := fun _ h => Std.HashSet.mem_insert.mpr (.inr h)

theorem length_unseen_le (t : TypeTable) {seen later : Std.HashSet TypeId}
    (grows : ∀ id ∈ seen, id ∈ later) : (t.unseen later).length ≤ (t.unseen seen).length := by
  refine (List.monotone_filter_right t.ids fun id h => ?_).length_le
  simp only [Bool.not_eq_true', Std.HashSet.contains_eq_false_iff_not_mem] at h ⊢
  exact mt (grows id) h

/-- A later search with less on its stack is the smaller one. -/
theorem lex_unseen (t : TypeTable) {seen later : Std.HashSet TypeId}
    (grows : ∀ id ∈ seen, id ∈ later) {m n : Nat} (h : m < n) :
    Prod.Lex (· < ·) (· < ·) ((t.unseen later).length, m) ((t.unseen seen).length, n) := by
  rcases Nat.lt_or_eq_of_le (length_unseen_le t grows) with fewer | same
  · exact Prod.Lex.left _ _ fewer
  · rw [same]
    exact Prod.Lex.right _ h

theorem lt_size_of_structFields? {t : TypeTable} {id : TypeId} {fields : List Field}
    (h : t.structFields? id = some fields) : id.index.toNat < t.size := by
  rcases Nat.lt_or_ge id.index.toNat t.size with inside | outside
  · exact inside
  · rw [structFields?_eq_none_of_size_le outside] at h
    cases h

mutual

/-- The best of the names at the type, or at the types of its embedded fields, with what has been
seen after that. A type seen before has none. -/
def resolve (t : TypeTable) (names : List String) (seen : Std.HashSet TypeId) (id : TypeId) :
    Option String × Seen seen :=
  if _known : t.deref id ∈ seen then (none, ⟨seen, fun _ h => h⟩)
  else
    match _struct : t.structFields? (t.deref id) with
    | none => (none, ⟨seen.insert (t.deref id), mem_insert_of_mem _⟩)
    | some fields =>
      match names.find? (declares fields) with
      | some name => (some name, ⟨seen.insert (t.deref id), mem_insert_of_mem _⟩)
      | none =>
        let (found, later) :=
          resolveFirst t names (seen.insert (t.deref id)) (fields.filter Field.embedded)
        (found, ⟨later.1, fun i h => later.2 i (mem_insert_of_mem _ i h)⟩)
termination_by ((t.unseen seen).length, 0)
decreasing_by
  exact Prod.Lex.left _ _ (length_unseen_insert_lt (lt_size_of_structFields? _struct) _known)

/-- The first success among the types of the fields, each with what those before it have seen. -/
def resolveFirst (t : TypeTable) (names : List String) (seen : Std.HashSet TypeId)
    (fields : List Field) : Option String × Seen seen :=
  match fields with
  | [] => (none, ⟨seen, fun _ h => h⟩)
  | f :: fs =>
    match resolve t names seen f.type with
    | (some name, later) => (some name, later)
    | (none, later) =>
      let (found, last) := resolveFirst t names later.1 fs
      (found, ⟨last.1, fun i h => last.2 i (later.2 i h)⟩)
termination_by ((t.unseen seen).length, fields.length)
decreasing_by
  · exact Prod.Lex.right _ (Nat.succ_pos _)
  · exact lex_unseen t later.2 (Nat.lt_succ_self _)

end

variable {t : TypeTable} {names : List String} {seen : Std.HashSet TypeId} {id : TypeId}

/-! ### The recursion, case by case -/

theorem resolve_of_mem (names : List String) (known : t.deref id ∈ seen) :
    (t.resolve names seen id).1 = none ∧ (t.resolve names seen id).2.1 = seen := by
  rw [resolve, dif_pos known]
  exact ⟨rfl, rfl⟩

theorem resolve_of_plain (names : List String) (fresh : t.deref id ∉ seen)
    (plain : t.structFields? (t.deref id) = none) :
    (t.resolve names seen id).1 = none ∧
      (t.resolve names seen id).2.1 = seen.insert (t.deref id) := by
  rw [resolve, dif_neg fresh]
  split
  · exact ⟨rfl, rfl⟩
  · next struct => cases plain.symm.trans struct

theorem resolve_of_declared {fields : List Field} {name : String} (fresh : t.deref id ∉ seen)
    (struct : t.structFields? (t.deref id) = some fields)
    (declared : names.find? (declares fields) = some name) :
    (t.resolve names seen id).1 = some name := by
  rw [resolve, dif_neg fresh]
  split
  · next plain => cases plain.symm.trans struct
  · next struct' =>
    obtain rfl := Option.some.inj (struct'.symm.trans struct)
    rw [declared]

theorem resolve_of_undeclared {fields : List Field} (fresh : t.deref id ∉ seen)
    (struct : t.structFields? (t.deref id) = some fields)
    (undeclared : names.find? (declares fields) = none) :
    (t.resolve names seen id).1 =
        (t.resolveFirst names (seen.insert (t.deref id)) (fields.filter Field.embedded)).1 ∧
      (t.resolve names seen id).2.1 =
        (t.resolveFirst names (seen.insert (t.deref id)) (fields.filter Field.embedded)).2.1 := by
  rw [resolve, dif_neg fresh]
  split
  · next plain => cases plain.symm.trans struct
  · next struct' =>
    obtain rfl := Option.some.inj (struct'.symm.trans struct)
    rw [undeclared]
    exact ⟨rfl, rfl⟩

theorem resolveFirst_nil (t : TypeTable) (names : List String) (seen : Std.HashSet TypeId) :
    (t.resolveFirst names seen []).1 = none ∧ (t.resolveFirst names seen []).2.1 = seen := by
  rw [resolveFirst]
  exact ⟨rfl, rfl⟩

theorem resolveFirst_cons_of_some {f : Field} {fs : List Field} {name : String}
    (found : (t.resolve names seen f.type).1 = some name) :
    (t.resolveFirst names seen (f :: fs)).1 = some name := by
  rw [resolveFirst]
  split
  · next h => rw [← found, h]
  · next h => rw [h] at found; cases found

theorem resolveFirst_cons_of_none {f : Field} (fs : List Field)
    (missing : (t.resolve names seen f.type).1 = none) :
    (t.resolveFirst names seen (f :: fs)).1 =
        (t.resolveFirst names (t.resolve names seen f.type).2.1 fs).1 ∧
      (t.resolveFirst names seen (f :: fs)).2.1 =
        (t.resolveFirst names (t.resolve names seen f.type).2.1 fs).2.1 := by
  rw [resolveFirst]
  split
  · next h => rw [h] at missing; cases missing
  · next h => rw [h]; exact ⟨rfl, rfl⟩

/-! ### The stack against the recursion -/

mutual

/-- A search with `id` on top of its stack gives what `resolve` finds there; if that is nothing, it
goes on with the rest of the stack and with what `resolve` has seen. -/
theorem searchFrom_cons_eq (seen : Std.HashSet TypeId) (id : TypeId) (rest : List TypeId) :
    t.searchFrom embeddedFields (t.directField? names) seen (id :: rest) =
      (t.resolve names seen id).1.or
        (t.searchFrom embeddedFields (t.directField? names) (t.resolve names seen id).2.1 rest) := by
  by_cases known : t.deref id ∈ seen
  · obtain ⟨nothing, same⟩ := resolve_of_mem names known
    rw [searchFrom, if_pos known, nothing, same, Option.none_or]
  · rw [searchFrom, if_neg known, directField?, members]
    cases struct : t.structFields? (t.deref id) with
    | none =>
      obtain ⟨nothing, later⟩ := resolve_of_plain names known struct
      rw [nothing, later, Option.none_or]
      rfl
    | some fields =>
      cases declared : names.find? (declares fields) with
      | some name => rw [resolve_of_declared known struct declared]; simp [declared]
      | none =>
        obtain ⟨found, later⟩ := resolve_of_undeclared known struct declared
        rw [found, later, ← searchFrom_append_eq]
        simp [declared, embeddedFields]
termination_by ((t.unseen seen).length, 0)
decreasing_by
  exact Prod.Lex.left _ _ (length_unseen_insert_lt (lt_size_of_structFields? struct) known)

/-- The same of a stack with the types of fields on top. -/
theorem searchFrom_append_eq (seen : Std.HashSet TypeId) (fields : List Field)
    (rest : List TypeId) :
    t.searchFrom embeddedFields (t.directField? names) seen (fields.map Field.type ++ rest) =
      (t.resolveFirst names seen fields).1.or
        (t.searchFrom embeddedFields (t.directField? names) (t.resolveFirst names seen fields).2.1
          rest) := by
  cases fields with
  | nil =>
    obtain ⟨nothing, same⟩ := resolveFirst_nil t names seen
    rw [nothing, same, Option.none_or]
    rfl
  | cons f fs =>
    rw [List.map_cons, List.cons_append, searchFrom_cons_eq]
    cases found : (t.resolve names seen f.type).1 with
    | some name => rw [resolveFirst_cons_of_some found]; rfl
    | none =>
      obtain ⟨same, last⟩ := resolveFirst_cons_of_none fs found
      rw [same, last, Option.none_or, searchFrom_append_eq]
termination_by ((t.unseen seen).length, fields.length)
decreasing_by
  · exact Prod.Lex.right _ (Nat.succ_pos _)
  · exact lex_unseen t (t.resolve names seen f.type).2.2 (Nat.lt_succ_self _)

end

/-- The search with a stack gives what the recursion gives. -/
theorem tokenField?_eq_resolve (t : TypeTable) (id : TypeId) (names : List String) :
    t.tokenField? id names = (t.resolve names ∅ id).1 := by
  rw [tokenField?, search, searchFrom_cons_eq, searchFrom, Option.or_none]

end PaginationLint.TypeTable
