import Mathlib.Algebra.Order.BigOperators.Group.List
import Mathlib.Algebra.Order.Ring.Nat
import PaginationLint.Result.Origin
import PaginationLint.Result.TokenField

/-!
The work of a search.

A search is a loop that takes one id off a stack at each turn. `trace` is this loop with a budget of
turns and a record of what it does. Duplicates and ids that have been seen stay on the stack, and a
turn can make the stack longer, but it does so at the cost of an id that is seen from then on: the
ids on the stack, together with the fields of all ids not yet seen, become fewer with every turn. So
there is a budget, the same for every search through a table, that no search exhausts.
-/

namespace PaginationLint.TypeTable

variable {α : Type} {t : TypeTable} {follows : List Field → List Field} {answer : TypeId → Option α}
  {seen : Std.HashSet TypeId} {stack : List TypeId} {id : TypeId}

/-! ### The loop -/

/-- What a loop has done. -/
structure Trace (α : Type) where
  /-- The ids taken off the stack, first to last. -/
  popped : List TypeId
  /-- The ids looked at, one pointer stripped, first to last. -/
  expanded : List TypeId
  /-- The result of the search; `none` if the budget did not suffice for one. -/
  outcome : Option (Option α)

/-- A turn that passes over an id, in front of what is done later. -/
def Trace.pass (id : TypeId) (later : Trace α) : Trace α :=
  { later with popped := id :: later.popped }

/-- A turn that looks at an id, in front of what is done later. -/
def Trace.expand (id target : TypeId) (later : Trace α) : Trace α :=
  { later with popped := id :: later.popped, expanded := target :: later.expanded }

/-- The loop of a search, for at most the given number of turns. -/
def trace (t : TypeTable) (follows : List Field → List Field) (answer : TypeId → Option α) :
    Nat → Std.HashSet TypeId → List TypeId → Trace α
  | _, _, [] => ⟨[], [], some none⟩
  | 0, _, _ :: _ => ⟨[], [], none⟩
  | budget + 1, seen, top :: rest =>
    if t.deref top ∈ seen then (t.trace follows answer budget seen rest).pass top
    else
      match answer (t.deref top) with
      | some a => ⟨[top], [t.deref top], some (some a)⟩
      | none =>
        (t.trace follows answer budget (seen.insert (t.deref top))
          (t.members follows (t.deref top) ++ rest)).expand top (t.deref top)

/-! ### What is left to do -/

/-- The number of fields of an id. -/
def fieldCount (t : TypeTable) (id : TypeId) : Nat := ((t.structFields? id).getD []).length

/-- The number of fields of all ids of a table. -/
def totalFields (t : TypeTable) : Nat := (t.ids.map t.fieldCount).sum

/-- The ids on the stack and the fields that can still get there. -/
def remaining (t : TypeTable) (seen : Std.HashSet TypeId) (stack : List TypeId) : Nat :=
  stack.length + ((t.unseen seen).map t.fieldCount).sum

/-- A search follows each field at most once. -/
def Narrow (follows : List Field → List Field) : Prop :=
  ∀ fields, (follows fields).length ≤ fields.length

theorem remaining_initial (id : TypeId) : t.remaining ∅ [id] = 1 + t.totalFields := by
  simp [remaining, totalFields, unseen]

theorem length_members_le (narrow : Narrow follows) :
    (t.members follows id).length ≤ t.fieldCount id := by
  unfold members fieldCount
  cases t.structFields? id with
  | none => simp
  | some fields => simpa using narrow fields

theorem fieldCount_eq_zero_of_size_le (outside : t.size ≤ id.index.toNat) : t.fieldCount id = 0 := by
  rw [fieldCount, structFields?_eq_none_of_size_le outside]
  rfl

/-- An id that is seen takes its fields with it. -/
theorem fieldCount_add_sum_unseen_insert_le (fresh : id ∉ seen) :
    t.fieldCount id + ((t.unseen (seen.insert id)).map t.fieldCount).sum ≤
      ((t.unseen seen).map t.fieldCount).sum := by
  rw [unseen_insert]
  rcases Nat.lt_or_ge id.index.toNat t.size with inside | outside
  · have mem : id ∈ t.unseen seen := List.mem_filter.mpr ⟨mem_ids inside, by simpa using fresh⟩
    have kept : ((t.unseen seen).filter (· != id)).Sublist ((t.unseen seen).erase id) := by
      have erased := (List.filter_sublist (p := (· != id)) (l := t.unseen seen)).erase id
      rwa [List.erase_of_not_mem (by simp)] at erased
    rw [← List.sum_map_erase t.fieldCount mem]
    exact Nat.add_le_add_left ((kept.map t.fieldCount).sum_le_sum (by simp)) _
  · rw [fieldCount_eq_zero_of_size_le outside, Nat.zero_add]
    exact (List.filter_sublist.map t.fieldCount).sum_le_sum (by simp)

/-- A turn that looks at an id leaves less to do. -/
theorem remaining_expand_lt (narrow : Narrow follows) {top : TypeId} (fresh : t.deref top ∉ seen)
    (stack : List TypeId) :
    t.remaining (seen.insert (t.deref top)) (t.members follows (t.deref top) ++ stack) <
      t.remaining seen (top :: stack) := by
  have pushed : (t.members follows (t.deref top)).length ≤ t.fieldCount (t.deref top) :=
    length_members_le narrow
  have released := fieldCount_add_sum_unseen_insert_le (t := t) fresh
  rw [remaining, remaining, List.length_append, List.length_cons]
  omega

/-! ### Runs of the loop -/

/-- No more turns are made than there is to do. -/
theorem length_popped_trace_le (narrow : Narrow follows) (budget : Nat)
    (seen : Std.HashSet TypeId) (stack : List TypeId) :
    (t.trace follows answer budget seen stack).popped.length ≤ t.remaining seen stack := by
  fun_induction trace t follows answer budget seen stack with
  | case1 => exact Nat.zero_le _
  | case2 => exact Nat.zero_le _
  | case3 budget seen top rest known ih =>
    rw [remaining, List.length_cons]
    rw [remaining] at ih
    simp only [Trace.pass, List.length_cons]
    omega
  | case4 budget seen top rest fresh a found =>
    rw [List.length_singleton, remaining, List.length_cons]
    omega
  | case5 budget seen top rest fresh silent ih =>
    have less := remaining_expand_lt narrow fresh rest
    simp only [Trace.expand, List.length_cons]
    omega

/-- The ids looked at are distinct, and none has been seen before. -/
theorem nodup_expanded_trace (budget : Nat) (seen : Std.HashSet TypeId) (stack : List TypeId) :
    (t.trace follows answer budget seen stack).expanded.Nodup ∧
      ∀ d ∈ (t.trace follows answer budget seen stack).expanded, d ∉ seen := by
  fun_induction trace t follows answer budget seen stack with
  | case1 => simp
  | case2 => simp
  | case3 budget seen top rest known ih => exact ih
  | case4 budget seen top rest fresh a found => simpa using fresh
  | case5 budget seen top rest fresh silent ih =>
    obtain ⟨distinct, unseen⟩ := ih
    refine ⟨List.nodup_cons.mpr ⟨fun again => ?_, distinct⟩, fun d hd => ?_⟩
    · exact unseen _ again Std.HashSet.mem_insert_self
    · rcases List.mem_cons.mp hd with rfl | hd
      · exact fresh
      · exact fun known => unseen d hd (Std.HashSet.mem_insert.mpr (.inr known))

/-- A budget for all that is to do suffices, and its size does not show in the result. -/
theorem outcome_trace (narrow : Narrow follows) {budget : Nat}
    (enough : t.remaining seen stack ≤ budget) :
    (t.trace follows answer budget seen stack).outcome =
      some (t.searchFrom follows answer seen stack) := by
  fun_induction trace t follows answer budget seen stack with
  | case1 => rw [searchFrom]
  | case2 => simp [remaining] at enough
  | case3 budget seen top rest known ih =>
    rw [searchFrom, if_pos known]
    refine ih ?_
    rw [remaining, List.length_cons] at enough
    rw [remaining]
    omega
  | case4 budget seen top rest fresh a found => rw [searchFrom, if_neg fresh, found]
  | case5 budget seen top rest fresh silent ih =>
    rw [searchFrom, if_neg fresh, silent]
    have less := remaining_expand_lt narrow fresh rest
    exact ih (by omega)

/-! ### The three searches -/

/-- The loop of a search from `id` ends by itself: with a budget of one turn more than there are
fields in the table, or any larger one, it has the given result. It never looks at an id twice, and
with no budget does it make more turns than that. -/
structure Ends (t : TypeTable) (follows : List Field → List Field) (answer : TypeId → Option α)
    (id : TypeId) (result : Option α) : Prop where
  outcome : ∀ spare, (t.trace follows answer (1 + t.totalFields + spare) ∅ [id]).outcome =
    some result
  distinct : ∀ budget, (t.trace follows answer budget ∅ [id]).expanded.Nodup
  turns : ∀ budget, (t.trace follows answer budget ∅ [id]).popped.length ≤ 1 + t.totalFields

theorem ends_search (narrow : Narrow follows) (id : TypeId) :
    t.Ends follows answer id (t.search follows answer id) where
  outcome spare := by
    refine outcome_trace narrow ?_
    rw [remaining_initial]
    omega
  distinct budget := (nodup_expanded_trace budget ∅ [id]).1
  turns budget := by
    rw [← remaining_initial id]
    exact length_popped_trace_le narrow budget ∅ [id]

/-- Each of the three searches through a table ends by itself, from every id. -/
theorem searches_end (t : TypeTable) (id : TypeId) (names : List String) (name : String) :
    t.Ends embeddedFields (t.directField? names) id (t.tokenField? id names) ∧
      (∃ found, t.Ends (fun fields => (embeddedFields fields).reverse)
        (fun id => if t.hasDirectField name id then some () else none) id found ∧
          t.hasField id name = found.isSome) ∧
      ∃ found, t.Ends List.reverse (fun id => if t.isSdkType id then some () else none) id found ∧
        t.isTrusted id = found.isSome := by
  have embedded : Narrow embeddedFields := fun fields => List.length_filter_le _ fields
  have reversed : Narrow fun fields => (embeddedFields fields).reverse := fun fields => by
    simpa using embedded fields
  have all : Narrow List.reverse := fun fields => by simp
  exact ⟨ends_search embedded id, ⟨_, ends_search reversed id, rfl⟩, _, ends_search all id, rfl⟩

end PaginationLint.TypeTable
