import Mathlib.Data.List.Iterate
import Mathlib.Dynamics.PeriodicPts.Defs
import PaginationLint.Proofs.Types.Extension
import PaginationLint.Proofs.Types.Underlying

/-!
Names that go round in a circle.

Names that never end form a tail, which may be empty, and then a loop. If there is no tail,
`underlying` stops at the last name before the loop closes. Behind a tail it never meets its start
again and uses up all its steps, so that it stops wherever in the loop it happens to be. The main
statement says for which sizes of the table that is the last name of the loop, and how far the table
may grow without a change.
-/

namespace PaginationLint.TypeTable

open Function (IsPeriodicPt minimalPeriod mk_mem_periodicPts isPeriodicPt_iff_minimalPeriod_dvd)
open Relation (ReflTransGen)

variable {t t' : TypeTable} {id start d : TypeId} {tail loop : Nat}

/-- What a name leads to; any other type leads to itself. -/
def behind (t : TypeTable) (d : TypeId) : TypeId := (t.next? d).getD d

/-- The names from `id` on lead to names only. -/
def Endless (t : TypeTable) (id : TypeId) : Prop :=
  ∀ d, ReflTransGen t.NameLeads id d → t.IsNamed d

/-- From `id` on there are different types up to a first repetition: those of a tail and those of a
loop, whose last leads back to its first. -/
structure Circles (t : TypeTable) (id : TypeId) (tail loop : Nat) : Prop where
  pos : 0 < loop
  distinct : (List.iterate t.behind id (tail + loop)).Nodup
  back : t.behind^[tail + loop] id = t.behind^[tail] id

/-! ### Names without an end -/

theorem next?_eq_behind (named : t.IsNamed d) : t.next? d = some (t.behind d) := by
  obtain ⟨e, leads⟩ := named
  rw [behind, next?_eq_some_iff.mpr leads, Option.getD_some]

namespace Endless

variable (endless : t.Endless id)

include endless

theorem reaches (n : Nat) : ReflTransGen t.NameLeads id (t.behind^[n] id) := by
  induction n with
  | zero => exact .refl
  | succ n ih =>
    rw [Function.iterate_succ_apply']
    exact ih.tail (next?_eq_some_iff.mp (next?_eq_behind (endless _ ih)))

theorem next?_iterate (n : Nat) :
    t.next? (t.behind^[n] id) = some (t.behind^[n + 1] id) := by
  rw [Function.iterate_succ_apply']
  exact next?_eq_behind (endless _ (endless.reaches n))

theorem lt_size (n : Nat) : (t.behind^[n] id).index.toNat < t.size :=
  lt_size_of_next? (endless.next?_iterate n)

/-- There are no more different names than types in the table. -/
theorem le_size_of_nodup {n : Nat} (distinct : (List.iterate t.behind id n).Nodup) :
    n ≤ t.size := by
  have inside : ∀ d ∈ List.iterate t.behind id n, d ∈ t.ids := by
    intro d hd
    obtain ⟨m, -, rfl⟩ := List.mem_iterate.mp hd
    exact mem_ids (endless.lt_size m)
  have bound := (distinct.subperm inside).length_le
  rwa [List.length_iterate, ids, List.length_map, List.length_range] at bound

/-- Sooner or later a name comes again; the first one that does closes the loop. -/
theorem exists_circles : ∃ tail loop, t.Circles id tail loop := by
  have repeats : ∃ n, ¬ (List.iterate t.behind id (n + 1)).Nodup := by
    refine ⟨t.size, fun distinct => ?_⟩
    have bound := endless.le_size_of_nodup distinct
    omega
  classical
  let n := Nat.find repeats
  have distinct : (List.iterate t.behind id n).Nodup := by
    rcases Nat.eq_zero_or_pos n with none | some
    · rw [none]
      exact List.nodup_nil
    · have earlier := Nat.find_min repeats (Nat.sub_lt some Nat.one_pos)
      rwa [not_not, Nat.sub_add_cancel some] at earlier
  have again : t.behind^[n] id ∈ List.iterate t.behind id n := by
    by_contra new
    refine Nat.find_spec repeats ?_
    rw [List.iterate_add]
    exact List.nodup_append_comm.mp (List.nodup_cons.mpr ⟨new, distinct⟩)
  obtain ⟨tail, before, same⟩ := List.mem_iterate.mp again
  have split : tail + (n - tail) = n := by omega
  exact ⟨tail, n - tail, by omega, by rwa [split], by rw [split, same]⟩

/-- Following names passes over those that do not lead to the start. -/
theorem follow_iterate {k : Nat} (away : ∀ j < k, t.behind^[j + 1] id ≠ start) (steps : Nat) :
    t.follow start (k + steps) id = t.follow start steps (t.behind^[k] id) := by
  induction k generalizing steps with
  | zero => rw [Nat.zero_add, Function.iterate_zero_apply]
  | succ k ih =>
    rw [Nat.add_right_comm, Nat.add_assoc, ih (fun j hj => away j (Nat.lt_succ_of_lt hj)), follow,
      endless.next?_iterate]
    exact if_neg (away k (Nat.lt_succ_self k))

end Endless

/-! ### Tail and loop -/

namespace Circles

variable (circles : t.Circles id tail loop)

include circles

theorem ne_of_lt {i j : Nat} (before : i < j) (within : j < tail + loop) :
    t.behind^[i] id ≠ t.behind^[j] id := by
  intro same
  have distinct := circles.distinct
  rw [← List.range_map_iterate] at distinct
  have equal := List.inj_on_of_nodup_map distinct (List.mem_range.mpr (before.trans within))
    (List.mem_range.mpr within) same
  omega

/-- The loop is passed through once before its first name comes again. -/
theorem minimalPeriod_eq : minimalPeriod t.behind (t.behind^[tail] id) = loop := by
  have period : IsPeriodicPt t.behind loop (t.behind^[tail] id) := by
    rw [IsPeriodicPt, Function.IsFixedPt, ← Function.iterate_add_apply, Nat.add_comm]
    exact circles.back
  refine Nat.le_antisymm (period.minimalPeriod_le circles.pos) (Nat.not_lt.mp fun shorter => ?_)
  have pos := period.minimalPeriod_pos circles.pos
  have early : t.behind^[minimalPeriod t.behind (t.behind^[tail] id) + tail] id =
      t.behind^[tail] id := by
    rw [Function.iterate_add_apply]
    exact Function.iterate_minimalPeriod
  exact circles.ne_of_lt (by omega) (by omega) early.symm

theorem mem_periodicPts : t.behind^[tail] id ∈ Function.periodicPts t.behind :=
  Function.minimalPeriod_pos_iff_mem_periodicPts.mp (circles.minimalPeriod_eq ▸ circles.pos)

/-- In the loop, two numbers of steps lead to one name iff they differ by whole rounds. -/
theorem iterate_eq_iff {m n : Nat} (inLoop : tail ≤ m) (later : m ≤ n) :
    t.behind^[n] id = t.behind^[m] id ↔ loop ∣ n - m := by
  obtain ⟨k, rfl⟩ := Nat.exists_eq_add_of_le' later
  obtain ⟨j, rfl⟩ := Nat.exists_eq_add_of_le' inLoop
  have period := Function.minimalPeriod_apply_iterate circles.mem_periodicPts j
  rw [circles.minimalPeriod_eq, ← Function.iterate_add_apply] at period
  rw [Nat.add_sub_cancel, Function.iterate_add_apply, ← period, ← isPeriodicPt_iff_minimalPeriod_dvd]
  rfl

/-- Behind a tail, no name leads back to where it begins. -/
theorem iterate_ne_start (tailed : tail ≠ 0) (n : Nat) : t.behind^[n + 1] id ≠ id := by
  intro back
  -- otherwise the start would be in the loop, and come again after one round
  have period := Function.minimalPeriod_apply_iterate (mk_mem_periodicPts n.succ_pos back) tail
  rw [circles.minimalPeriod_eq] at period
  have round : t.behind^[loop] id = id := by
    rw [period]
    exact Function.iterate_minimalPeriod
  exact circles.ne_of_lt circles.pos (by omega) round.symm

end Circles

/-! ### Where `underlying` stops -/

section Stop

variable (endless : t.Endless id) (circles : t.Circles id tail loop)

include endless circles

theorem underlying_of_loop (closed : tail = 0) : t.underlying id = t.behind^[loop - 1] id := by
  subst closed
  have bound := endless.le_size_of_nodup circles.distinct
  have pos := circles.pos
  have away : ∀ j < loop - 1, t.behind^[j + 1] id ≠ id :=
    fun j hj => (circles.ne_of_lt j.succ_pos (by omega)).symm
  have budget : t.size + 1 = (loop - 1) + ((t.size + 1 - loop) + 1) := by omega
  rw [underlying, budget, endless.follow_iterate away, follow, endless.next?_iterate]
  have back : t.behind^[loop - 1 + 1] id = id := by
    rw [Nat.sub_add_cancel pos]
    simpa using circles.back
  exact if_pos back

theorem underlying_of_tail (tailed : tail ≠ 0) : t.underlying id = t.behind^[t.size + 1] id :=
  endless.follow_iterate (fun j _ => circles.iterate_ne_start tailed j) 0

/-- The last different name is found if the loop begins at once, or if the steps happen to end
there. -/
theorem underlying_eq_last_iff :
    t.underlying id = t.behind^[tail + loop - 1] id ↔ tail = 0 ∨ loop ∣ t.size + 2 - tail := by
  have bound := endless.le_size_of_nodup circles.distinct
  have pos := circles.pos
  rcases Nat.eq_zero_or_pos tail with closed | tailed
  · rw [underlying_of_loop endless circles closed, closed, Nat.zero_add]
    simp
  · have far : t.size + 2 - tail = (t.size + 1 - (tail + loop - 1)) + loop := by omega
    rw [underlying_of_tail endless circles (by omega),
      circles.iterate_eq_iff (by omega) (by omega), far, Nat.dvd_add_self_right]
    exact ⟨.inr, fun h => h.resolve_left (by omega)⟩

end Stop

/-! ### Tables that grow -/

section Growth

variable (endless : t.Endless id) (grown : Extends t t')

include endless grown

theorem Endless.iterate_eq (n : Nat) : t'.behind^[n] id = t.behind^[n] id := by
  induction n with
  | zero => rfl
  | succ n ih =>
    rw [Function.iterate_succ_apply', ih, Function.iterate_succ_apply', behind, behind, next?, next?,
      grown.get?_eq _ (endless.lt_size n)]

theorem Endless.extend : t'.Endless id := by
  intro d reached
  have old : ReflTransGen t.NameLeads id d := by
    induction reached with
    | refl => exact .refl
    | tail _ leads ih =>
      obtain ⟨name, package, found⟩ := leads
      obtain ⟨e, named⟩ := endless _ ih
      rw [grown.get?_eq _ (lt_size_of_next? (next?_eq_some_iff.mpr named))] at found
      exact ih.tail ⟨name, package, found⟩
  obtain ⟨e, named⟩ := endless _ old
  have inside := lt_size_of_next? (next?_eq_some_iff.mpr named)
  obtain ⟨name, package, found⟩ := named
  exact ⟨e, name, package, (grown.get?_eq _ inside).trans found⟩

theorem Circles.extend (circles : t.Circles id tail loop) : t'.Circles id tail loop := by
  have same : List.iterate t'.behind id (tail + loop) = List.iterate t.behind id (tail + loop) := by
    rw [← List.range_map_iterate, ← List.range_map_iterate]
    exact List.map_congr_left fun n _ => endless.iterate_eq grown n
  refine ⟨circles.pos, same ▸ circles.distinct, ?_⟩
  rw [endless.iterate_eq grown, endless.iterate_eq grown]
  exact circles.back

/-- Behind a tail, the table has to grow by whole rounds of the loop. -/
theorem underlying_extends_iff (circles : t.Circles id tail loop) :
    t'.underlying id = t.underlying id ↔ tail = 0 ∨ loop ∣ t'.size - t.size := by
  have endless' := endless.extend grown
  have circles' := circles.extend endless grown
  have larger := grown.size_le
  have bound := endless.le_size_of_nodup circles.distinct
  rcases Nat.eq_zero_or_pos tail with closed | tailed
  · rw [underlying_of_loop endless circles closed, underlying_of_loop endless' circles' closed,
      endless.iterate_eq grown]
    simp [closed]
  · have far : t'.size - t.size = t'.size + 1 - (t.size + 1) := by omega
    rw [underlying_of_tail endless circles (by omega), underlying_of_tail endless' circles' (by omega),
      endless.iterate_eq grown, circles.iterate_eq_iff (by omega) (by omega), far]
    exact ⟨.inr, fun h => h.resolve_left (by omega)⟩

end Growth

/-- Names that never end have a tail and a loop. What stands for the type behind them is the last name
of the loop if there is no tail; otherwise it is where as many steps lead as the table has types, and
one more. So it is the last different name iff there is no tail or those steps end there, and it
stays the same in a larger table iff there is no tail or whole rounds are added. -/
theorem underlying_of_endless (t : TypeTable) (id : TypeId)
    (endless : ∀ d, ReflTransGen t.NameLeads id d → t.IsNamed d) :
    (∃ tail loop, t.Circles id tail loop) ∧
    ∀ tail loop, t.Circles id tail loop →
      (tail = 0 → t.underlying id = t.behind^[loop - 1] id) ∧
      (tail ≠ 0 → t.underlying id = t.behind^[t.size + 1] id) ∧
      (t.underlying id = t.behind^[tail + loop - 1] id ↔ tail = 0 ∨ loop ∣ t.size + 2 - tail) ∧
      ∀ t', Extends t t' →
        (t'.underlying id = t.underlying id ↔ tail = 0 ∨ loop ∣ t'.size - t.size) := by
  refine ⟨Endless.exists_circles endless, fun tail loop circles => ?_⟩
  exact ⟨underlying_of_loop endless circles, underlying_of_tail endless circles,
    underlying_eq_last_iff endless circles,
    fun t' grown => underlying_extends_iff endless grown circles⟩

/-! ### A loop behind a tail -/

/-- A name that leads into a loop of two others. -/
def trailing : TypeTable where
  types := #[.named "Tail" none ⟨1⟩, .named "There" none ⟨2⟩, .named "Back" none ⟨1⟩]

theorem endless_trailing : trailing.Endless ⟨0⟩ := by
  intro d reached
  have inside : d = ⟨0⟩ ∨ d = ⟨1⟩ ∨ d = ⟨2⟩ := by
    induction reached with
    | refl => exact .inl rfl
    | tail _ leads ih =>
      obtain ⟨name, package, found⟩ := leads
      rcases ih with rfl | rfl | rfl
      · cases found
        exact .inr (.inl rfl)
      · cases found
        exact .inr (.inr rfl)
      · cases found
        exact .inr (.inl rfl)
  rcases inside with rfl | rfl | rfl <;> exact ⟨_, _, _, rfl⟩

theorem circles_trailing : trailing.Circles ⟨0⟩ 1 2 := ⟨by decide, by decide, by decide⟩

/-- With three types in the table, four steps happen to end at the last name. -/
theorem underlying_of_endless_trailing :
    trailing.underlying ⟨0⟩ = ⟨2⟩ ∧
      (trailing.add (.basic "int")).1.underlying ⟨0⟩ ≠ trailing.underlying ⟨0⟩ := by
  obtain ⟨-, -, last, growth⟩ :=
    (underlying_of_endless trailing ⟨0⟩ endless_trailing).2 1 2 circles_trailing
  refine ⟨last.mpr (.inr (by decide)), fun same => ?_⟩
  exact absurd ((growth _ (trailing.extends_add _)).mp same) (by decide)

/-- One more type, which nothing refers to, and they end at the name before the last. -/
theorem underlying_not_last_trailing :
    let grown := (trailing.add (.basic "int")).1
    Extends trailing grown ∧ (∀ d, ReflTransGen grown.NameLeads ⟨0⟩ d → grown.IsNamed d) ∧
      grown.Circles ⟨0⟩ 1 2 ∧ grown.behind^[1 + 2 - 1] ⟨0⟩ = ⟨2⟩ ∧
      trailing.underlying ⟨0⟩ = ⟨2⟩ ∧ grown.underlying ⟨0⟩ = ⟨1⟩ := by
  have grown := trailing.extends_add (.basic "int")
  exact ⟨grown, endless_trailing.extend grown, circles_trailing.extend endless_trailing grown,
    by decide, by decide, by decide⟩

end PaginationLint.TypeTable
