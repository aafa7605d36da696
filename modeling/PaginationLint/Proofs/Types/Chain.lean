import Mathlib.Data.List.Nodup
import Mathlib.Data.List.Perm.Subperm
import Mathlib.Data.Set.Defs
import PaginationLint.Types.Search

/-!
Chains of names.

`underlying` follows names for a number of steps that depends on the size of the table, and on a
chain that goes round in a circle its answer depends on that number. The main statement is that the
fields of a struct do not: they are found exactly where the chain of names ends at the struct, since
a chain that ends has no id twice and is therefore no longer than the table. Two tables with the
same names and structs, on a set of ids that no name leads out of, have the same fields there.
-/

namespace PaginationLint.TypeTable

/-- The type `d` is declared as a name for `e`. -/
def NameLeads (t : TypeTable) (d e : TypeId) : Prop :=
  ∃ name package, t.get? d = some (.named name package e)

/-- The type is a name for some type. -/
def IsNamed (t : TypeTable) (d : TypeId) : Prop := ∃ e, t.NameLeads d e

/-- The names from `id` on lead, by way of the ids in the list, to `last`, which is no name. -/
inductive NameChain (t : TypeTable) : TypeId → List TypeId → TypeId → Prop
  | stop {last : TypeId} (ends : t.next? last = none) : NameChain t last [] last
  | step {id next last : TypeId} {later : List TypeId} (named : t.next? id = some next)
    (rest : NameChain t next later last) : NameChain t id (next :: later) last

variable {t : TypeTable} {id start last d e : TypeId} {later : List TypeId}

theorem next?_eq_some_iff : t.next? d = some e ↔ t.NameLeads d e := by
  unfold next? NameLeads
  constructor
  · intro h
    split at h
    · next name package underlying found =>
      rw [Option.some.inj h] at found
      exact ⟨name, package, found⟩
    · cases h
  · rintro ⟨name, package, found⟩
    rw [found]

theorem next?_eq_none_iff : t.next? d = none ↔ ¬ t.IsNamed d := by
  rw [Option.eq_none_iff_forall_ne_some, IsNamed, not_exists]
  exact forall_congr' fun e => not_congr next?_eq_some_iff

/-- A name is inside the table. -/
theorem lt_size_of_next? {next : TypeId} (named : t.next? id = some next) :
    id.index.toNat < t.size := by
  refine Nat.not_le.mp fun outside => ?_
  rw [next?, get?_eq_none_of_size_le outside] at named
  cases named

namespace NameChain

/-- From an id there is one way at most. -/
theorem unique (chain : t.NameChain id later last) {later' : List TypeId} {last' : TypeId}
    (chain' : t.NameChain id later' last') : later' = later := by
  induction chain generalizing later' with
  | stop ends =>
    cases chain' with
    | stop => rfl
    | step named => rw [ends] at named; cases named
  | step named _ ih =>
    cases chain' with
    | stop ends => rw [ends] at named; cases named
    | step named' rest' =>
      obtain rfl := Option.some.inj (named.symm.trans named')
      rw [ih rest']

theorem of_mem (chain : t.NameChain id later last) {x : TypeId} (hx : x ∈ later) :
    ∃ later', t.NameChain x later' last ∧ later'.length < later.length := by
  induction chain with
  | stop => cases hx
  | @step id next last later named rest ih =>
    rcases List.mem_cons.mp hx with rfl | hx
    · exact ⟨later, rest, Nat.lt_succ_self _⟩
    · obtain ⟨later', chain, shorter⟩ := ih hx
      exact ⟨later', chain, Nat.lt_succ_of_lt shorter⟩

/-- A chain that ends does not come back to where it starts. -/
theorem notMem (chain : t.NameChain id later last) : id ∉ later := by
  intro back
  -- coming back, the way to the end would be shorter than it is
  obtain ⟨later', chain', shorter⟩ := chain.of_mem back
  rw [chain.unique chain'] at shorter
  exact Nat.lt_irrefl _ shorter

theorem nodup (chain : t.NameChain id later last) : later.Nodup := by
  induction chain with
  | stop => exact List.nodup_nil
  | step _ rest ih => exact List.nodup_cons.mpr ⟨rest.notMem, ih⟩

/-- The ids in front of the last are names, so they are inside the table. -/
theorem mem_ids (chain : t.NameChain id later last) :
    ∀ x ∈ (id :: later).dropLast, x ∈ t.ids := by
  induction chain with
  | stop => exact nofun
  | step named _ ih =>
    intro x hx
    rcases List.mem_cons.mp hx with rfl | hx
    · exact TypeTable.mem_ids (lt_size_of_next? named)
    · exact ih x hx

/-- A chain that ends is no longer than the table: the ids in front of its last are as many different
names. -/
theorem length_le_size (chain : t.NameChain id later last) : later.length ≤ t.size := by
  have distinct : (id :: later).dropLast.Nodup :=
    (List.nodup_cons.mpr ⟨chain.notMem, chain.nodup⟩).sublist (List.dropLast_sublist _)
  have bound := (distinct.subperm chain.mem_ids).length_le
  rwa [List.length_dropLast, List.length_cons, ids, List.length_map, List.length_range] at bound

/-- Following names gets to the end if there are steps enough and `start` is not on the way. -/
theorem follow_eq (chain : t.NameChain id later last) (away : start ∉ later) {steps : Nat}
    (enough : later.length ≤ steps) : t.follow start steps id = last := by
  induction chain generalizing steps with
  | stop ends => cases steps <;> simp [follow, ends]
  | step named _ ih =>
    obtain ⟨steps, rfl⟩ : ∃ n, steps = n + 1 := ⟨steps - 1, by simp at enough; omega⟩
    rw [List.mem_cons, not_or] at away
    rw [follow, named]
    simp only [if_neg (Ne.symm away.1)]
    exact ih away.2 (by simpa using enough)

/-- There are always steps enough: one more than the chain can need. -/
theorem underlying_eq (chain : t.NameChain id later last) : t.underlying id = last :=
  chain.follow_eq chain.notMem (Nat.le_succ_of_le chain.length_le_size)

end NameChain

/-- What following names arrives at, if it is no name, is the end of the chain. -/
theorem nameChain_follow {steps : Nat} (ends : t.next? (t.follow start steps id) = none) :
    ∃ later, t.NameChain id later (t.follow start steps id) := by
  induction steps generalizing id with
  | zero => exact ⟨[], .stop ends⟩
  | succ steps ih =>
    rw [follow] at ends ⊢
    cases named : t.next? id with
    | none => exact ⟨[], .stop named⟩
    | some next =>
      simp only [named] at ends ⊢
      split at ends
      · rw [named] at ends; cases ends
      next away =>
        obtain ⟨later, rest⟩ := ih ends
        rw [if_neg away]
        exact ⟨next :: later, .step named rest⟩

theorem next?_struct {fields : List Field} (h : t.get? id = some (.struct fields)) :
    t.next? id = none := by
  rw [next?, h]

/-- A type has the fields of the struct that its names lead to. -/
theorem structFields?_eq_some_iff {fields : List Field} :
    t.structFields? id = some fields ↔
      ∃ later last, t.NameChain id later last ∧ t.get? last = some (.struct fields) := by
  constructor
  · intro h
    rw [structFields?] at h
    split at h
    next found struct =>
      obtain rfl := Option.some.inj h
      obtain ⟨later, chain⟩ := nameChain_follow (next?_struct struct)
      exact ⟨later, _, chain, struct⟩
    · cases h
  · rintro ⟨later, last, chain, struct⟩
    rw [structFields?, chain.underlying_eq, struct]

/-- A name has the fields of the type it is a name for. -/
theorem structFields?_of_next? {next : TypeId} (named : t.next? id = some next) :
    t.structFields? id = t.structFields? next := by
  refine Option.ext fun fields => ?_
  rw [structFields?_eq_some_iff, structFields?_eq_some_iff]
  constructor
  · rintro ⟨later, last, chain, struct⟩
    cases chain with
    | stop ends => cases named.symm.trans ends
    | step named' rest =>
      obtain rfl := Option.some.inj (named.symm.trans named')
      exact ⟨_, last, rest, struct⟩
  · rintro ⟨later, last, chain, struct⟩
    exact ⟨next :: later, last, .step named chain, struct⟩

/-- A type that is no name has fields only if it is a struct. -/
theorem structFields?_of_next?_eq_none {fields : List Field} (ends : t.next? id = none) :
    t.structFields? id = some fields ↔ t.get? id = some (.struct fields) := by
  rw [structFields?_eq_some_iff]
  constructor
  · rintro ⟨later, last, chain, struct⟩
    cases chain with
    | stop => exact struct
    | step named => cases ends.symm.trans named
  · exact fun struct => ⟨[], id, .stop ends, struct⟩

/-! ### Names in two tables -/

/-- On a set of ids that no name leads out of, two tables have the same names and the same
structs. -/
structure LinksAlike (t t' : TypeTable) (ids : Set TypeId) : Prop where
  next?_mem : ∀ id ∈ ids, ∀ next, t.next? id = some next → next ∈ ids
  next?_eq : ∀ id ∈ ids, t'.next? id = t.next? id
  struct_iff : ∀ id ∈ ids, ∀ fields,
    t'.get? id = some (.struct fields) ↔ t.get? id = some (.struct fields)

namespace LinksAlike

variable {t' : TypeTable} {ids : Set TypeId}

theorem symm (alike : LinksAlike t t' ids) : LinksAlike t' t ids where
  next?_mem id h next named := alike.next?_mem id h next ((alike.next?_eq id h).symm.trans named)
  next?_eq id h := (alike.next?_eq id h).symm
  struct_iff id h fields := (alike.struct_iff id h fields).symm

variable (alike : LinksAlike t t' ids)

include alike

/-- Names lead the same way in both tables. -/
theorem nameChain (h : id ∈ ids) (chain : t.NameChain id later last) :
    last ∈ ids ∧ t'.NameChain id later last := by
  induction chain with
  | stop ends => exact ⟨h, .stop ((alike.next?_eq _ h).trans ends)⟩
  | step named _ ih =>
    obtain ⟨hlast, rest⟩ := ih (alike.next?_mem _ h _ named)
    exact ⟨hlast, .step ((alike.next?_eq _ h).trans named) rest⟩

theorem structFields?_of_eq_some (h : id ∈ ids) {fields : List Field}
    (found : t.structFields? id = some fields) : t'.structFields? id = some fields := by
  obtain ⟨later, last, chain, struct⟩ := structFields?_eq_some_iff.mp found
  obtain ⟨hlast, chain'⟩ := alike.nameChain h chain
  have struct' := (alike.struct_iff last hlast fields).mpr struct
  exact structFields?_eq_some_iff.mpr ⟨later, last, chain', struct'⟩

theorem structFields?_eq (h : id ∈ ids) : t'.structFields? id = t.structFields? id :=
  Option.ext fun _ => ⟨alike.symm.structFields?_of_eq_some h, alike.structFields?_of_eq_some h⟩

end LinksAlike

end PaginationLint.TypeTable
