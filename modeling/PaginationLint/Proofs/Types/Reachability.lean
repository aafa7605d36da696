import Mathlib.Data.List.Chain
import Mathlib.Logic.Relation
import PaginationLint.Types.Search

/-!
What a search can find.

`Step` leads from a type to the types of its followed fields, one pointer stripped. The main
statement is that a search has an answer iff a finite number of steps leads from the type it starts
at, one pointer stripped, to a type with an answer: neither the set of types seen nor the order in
which fields are followed hides one. A table may contain cycles and ids that lead nowhere. `IsPath`
writes the steps out as a list of ids.
-/

namespace PaginationLint.TypeTable

open Relation (ReflTransGen TransGen)

variable {α : Type} {t : TypeTable} {follows : List Field → List Field} {answer : TypeId → Option α}

/-- One followed field leads from `d` to `e`. -/
def Step (t : TypeTable) (follows : List Field → List Field) (d e : TypeId) : Prop :=
  ∃ m ∈ t.members follows d, t.deref m = e

theorem step_iff {d e : TypeId} :
    t.Step follows d e ↔
      ∃ fields, t.structFields? d = some fields ∧ ∃ f ∈ follows fields, t.deref f.type = e := by
  unfold Step members
  cases t.structFields? d with
  | none => simp
  | some fields =>
    constructor
    · rintro ⟨m, hm, rfl⟩
      obtain ⟨f, hf, rfl⟩ := List.mem_map.mp hm
      exact ⟨fields, rfl, f, hf, rfl⟩
    · rintro ⟨_, ⟨⟩, f, hf, rfl⟩
      exact ⟨f.type, List.mem_map_of_mem hf, rfl⟩

/-- Types and how to reach them: seen, or on the stack behind at most one pointer. -/
def Located (t : TypeTable) (seen : Std.HashSet TypeId) (stack : List TypeId) (d : TypeId) : Prop :=
  d ∈ seen ∨ ∃ id ∈ stack, t.deref id = d

/-- What holds of a search under way: nothing seen has an answer, and a step from a type seen leads
to a type seen or to one on the stack. -/
structure Pending (t : TypeTable) (follows : List Field → List Field) (answer : TypeId → Option α)
    (seen : Std.HashSet TypeId) (stack : List TypeId) : Prop where
  silent : ∀ d ∈ seen, answer d = none
  closed : ∀ d ∈ seen, ∀ e, t.Step follows d e → t.Located seen stack e

namespace Pending

variable {seen : Std.HashSet TypeId} {top : TypeId} {rest : List TypeId}

theorem initial (stack : List TypeId) : Pending t follows answer ∅ stack :=
  ⟨by simp, by simp⟩

/-- A type that has been seen can be taken off the stack. -/
theorem pop (h : Pending t follows answer seen (top :: rest)) (known : t.deref top ∈ seen) :
    Pending t follows answer seen rest := by
  refine ⟨h.silent, fun d hd e he => ?_⟩
  rcases h.closed d hd e he with hs | ⟨id, hid, rfl⟩
  · exact .inl hs
  · rcases List.mem_cons.mp hid with rfl | hid
    · exact .inl known
    · exact .inr ⟨id, hid, rfl⟩

/-- A type without an answer makes way for the types of its fields. -/
theorem visit (h : Pending t follows answer seen (top :: rest))
    (silent : answer (t.deref top) = none) :
    Pending t follows answer (seen.insert (t.deref top))
      (t.members follows (t.deref top) ++ rest) := by
  refine ⟨fun d hd => ?_, fun d hd e he => ?_⟩
  · rcases Std.HashSet.mem_insert.mp hd with hd | hd
    · exact beq_iff_eq.mp hd ▸ silent
    · exact h.silent d hd
  · rcases Std.HashSet.mem_insert.mp hd with hd | hd
    · rw [← beq_iff_eq.mp hd] at he
      obtain ⟨m, hm, rfl⟩ := he
      exact .inr ⟨m, List.mem_append_left _ hm, rfl⟩
    · rcases h.closed d hd e he with hs | ⟨id, hid, rfl⟩
      · exact .inl (Std.HashSet.mem_insert.mpr (.inr hs))
      · rcases List.mem_cons.mp hid with rfl | hid
        · exact .inl Std.HashSet.mem_insert_self
        · exact .inr ⟨id, List.mem_append_right _ hid, rfl⟩

/-- With nothing left on the stack, no step leads out of what has been seen. -/
theorem silent_of_reaches (h : Pending t follows answer seen []) {d e : TypeId} (hd : d ∈ seen)
    (path : ReflTransGen (t.Step follows) d e) : answer e = none := by
  have inside : e ∈ seen := by
    induction path with
    | refl => exact hd
    | tail _ he ih => simpa [Located] using h.closed _ ih _ he
  exact h.silent e inside

end Pending

/-- An answer was met where steps lead from the stack. -/
theorem exists_of_searchFrom {seen : Std.HashSet TypeId} {stack : List TypeId} {a : α}
    (found : t.searchFrom follows answer seen stack = some a) :
    ∃ id ∈ stack, ∃ d, ReflTransGen (t.Step follows) (t.deref id) d ∧ answer d = some a := by
  fun_induction searchFrom t follows answer seen stack with
  | case1 => cases found
  | case2 seen top rest known ih =>
    obtain ⟨id, hid, h⟩ := ih found
    exact ⟨id, List.mem_cons_of_mem _ hid, h⟩
  | case3 seen top rest fresh b hb =>
    exact ⟨top, List.mem_cons_self, t.deref top, .refl, hb.trans found⟩
  | case4 seen top rest fresh silent ih =>
    obtain ⟨id, hid, d, path, hd⟩ := ih found
    rcases List.mem_append.mp hid with hid | hid
    · exact ⟨top, List.mem_cons_self, d, path.head ⟨id, hid, rfl⟩, hd⟩
    · exact ⟨id, List.mem_cons_of_mem _ hid, d, path, hd⟩

/-- A search without an answer has passed every type that steps lead to. -/
theorem silent_of_searchFrom {seen : Std.HashSet TypeId} {stack : List TypeId}
    (pending : Pending t follows answer seen stack)
    (failed : t.searchFrom follows answer seen stack = none) {d e : TypeId}
    (hd : t.Located seen stack d) (path : ReflTransGen (t.Step follows) d e) : answer e = none := by
  fun_induction searchFrom t follows answer seen stack with
  | case1 seen => exact pending.silent_of_reaches (by simpa [Located] using hd) path
  | case2 seen top rest known ih =>
    refine ih (pending.pop known) failed ?_
    rcases hd with hd | ⟨id, hid, rfl⟩
    · exact .inl hd
    · rcases List.mem_cons.mp hid with rfl | hid
      · exact .inl known
      · exact .inr ⟨id, hid, rfl⟩
  | case3 => cases failed
  | case4 seen top rest fresh silent ih =>
    refine ih (pending.visit silent) failed ?_
    rcases hd with hd | ⟨id, hid, rfl⟩
    · exact .inl (Std.HashSet.mem_insert.mpr (.inr hd))
    · rcases List.mem_cons.mp hid with rfl | hid
      · exact .inl Std.HashSet.mem_insert_self
      · exact .inr ⟨id, List.mem_append_right _ hid, rfl⟩

/-- A search has an answer iff steps lead to a type that has one. -/
theorem isSome_search_iff (id : TypeId) :
    (t.search follows answer id).isSome ↔
      ∃ d, ReflTransGen (t.Step follows) (t.deref id) d ∧ (answer d).isSome := by
  constructor
  · intro h
    obtain ⟨a, ha⟩ := Option.isSome_iff_exists.mp h
    obtain ⟨i, hi, d, path, hd⟩ := exists_of_searchFrom ha
    rw [List.mem_singleton.mp hi] at path
    exact ⟨d, path, Option.isSome_of_eq_some hd⟩
  · rintro ⟨d, path, hd⟩
    cases found : t.search follows answer id with
    | some a => rfl
    | none =>
      have silent : answer d = none := silent_of_searchFrom (Pending.initial [id]) found
        (.inr ⟨id, List.mem_singleton_self id, rfl⟩) path
      rw [silent] at hd
      cases hd

/-- A search goes nowhere if there is an answer where it starts. -/
theorem search_of_answer {id : TypeId} {a : α} (h : answer (t.deref id) = some a) :
    t.search follows answer id = some a := by
  rw [search, searchFrom, if_neg (by simp), h]

/-! ### What has been seen -/

/-- What has been seen matters only as far as steps lead there from the stack. -/
theorem searchFrom_congr {seen seen' : Std.HashSet TypeId} {stack : List TypeId}
    (same : ∀ id ∈ stack, ∀ d, ReflTransGen (t.Step follows) (t.deref id) d →
      (d ∈ seen' ↔ d ∈ seen)) :
    t.searchFrom follows answer seen' stack = t.searchFrom follows answer seen stack := by
  fun_induction searchFrom t follows answer seen stack generalizing seen' with
  | case1 => rw [searchFrom]
  | case2 seen top rest known ih =>
    have known' := (same top List.mem_cons_self _ .refl).mpr known
    rw [searchFrom, if_pos known']
    exact ih fun id hid => same id (List.mem_cons_of_mem _ hid)
  | case3 seen top rest fresh a found =>
    have fresh' := mt (same top List.mem_cons_self _ .refl).mp fresh
    rw [searchFrom, if_neg fresh', found]
  | case4 seen top rest fresh silent ih =>
    have fresh' := mt (same top List.mem_cons_self _ .refl).mp fresh
    rw [searchFrom, if_neg fresh', silent]
    refine ih fun id hid d reached => ?_
    have before : d ∈ seen' ↔ d ∈ seen := by
      rcases List.mem_append.mp hid with hid | hid
      · exact same top List.mem_cons_self d (reached.head ⟨id, hid, rfl⟩)
      · exact same id (List.mem_cons_of_mem _ hid) d reached
    rw [Std.HashSet.mem_insert, Std.HashSet.mem_insert, before]

/-- A search that cannot come back to the type where it starts need not remember it. -/
theorem search_of_no_return {id : TypeId}
    (noReturn : ¬ TransGen (t.Step follows) (t.deref id) (t.deref id)) :
    t.search follows answer id = (answer (t.deref id)).or
      (t.searchFrom follows answer ∅ (t.members follows (t.deref id))) := by
  rw [search, searchFrom, if_neg (by simp)]
  cases answer (t.deref id) with
  | some a => rfl
  | none =>
    dsimp only
    rw [List.append_nil, Option.none_or]
    refine searchFrom_congr fun m hm d reached => ?_
    have other : t.deref id ≠ d := by
      rintro rfl
      exact noReturn (.head' ⟨m, hm, rfl⟩ reached)
    simp [Std.HashSet.mem_insert, other]

/-- A search starts behind the pointer. -/
theorem search_congr_deref {id id' : TypeId} (same : t.deref id = t.deref id') :
    t.search follows answer id = t.search follows answer id' := by
  simp only [search, searchFrom, same]

/-! ### Paths -/

/-- The ids of `path`, the first of which is `d` and the last `e`, lead from one to the next. -/
structure IsPath (leads : TypeId → TypeId → Prop) (path : List TypeId) (d e : TypeId) : Prop where
  starts : path.head? = some d
  linked : path.IsChain leads
  ends : path.getLast? = some e

/-- One id can be reached from another iff there is a path between them. -/
theorem exists_isPath_iff {leads : TypeId → TypeId → Prop} {d e : TypeId} :
    (∃ path, IsPath leads path d e) ↔ ReflTransGen leads d e := by
  constructor
  · rintro ⟨path, starts, linked, ends⟩
    obtain ⟨later, rfl⟩ := List.head?_eq_some_iff.mp starts
    rw [List.getLast?_eq_some_getLast (List.cons_ne_nil d later)] at ends
    exact List.relationReflTransGen_of_exists_isChain_cons later linked (Option.some.inj ends)
  · intro reached
    obtain ⟨later, linked, ends⟩ := List.exists_isChain_cons_of_relationReflTransGen reached
    refine ⟨d :: later, rfl, linked, ?_⟩
    rw [List.getLast?_eq_some_getLast (List.cons_ne_nil d later), ends]

theorem exists_isPath_and_iff {leads : TypeId → TypeId → Prop} {d : TypeId} {p : TypeId → Prop} :
    (∃ path e, IsPath leads path d e ∧ p e) ↔ ∃ e, ReflTransGen leads d e ∧ p e := by
  constructor
  · rintro ⟨path, e, isPath, he⟩
    exact ⟨e, exists_isPath_iff.mp ⟨path, isPath⟩, he⟩
  · rintro ⟨e, reached, he⟩
    obtain ⟨path, isPath⟩ := exists_isPath_iff.mpr reached
    exact ⟨path, e, isPath, he⟩

end PaginationLint.TypeTable
