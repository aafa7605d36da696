import Mathlib.Algebra.Group.End
import PaginationLint.Proofs.Result.Simulation

/-!
Type tables in another order.

A permutation of the ids of a table moves every type to a new place and renames the ids inside it.
The main statement is that the new table simulates the old one: even the search for the type behind
a chain of names, which compares ids and counts its steps, ends at the renamed type.
-/

namespace PaginationLint

/-- The same type with other ids inside it. -/
def Ty.rename (f : TypeId → TypeId) : Ty → Ty
  | .pointer elem => .pointer (f elem)
  | .named name package underlying => .named name package (f underlying)
  | .struct fields => .struct (fields.map (Field.rename f))
  | .tuple elems => .tuple (elems.map f)
  | .slice elem => .slice (f elem)
  | .map key value => .map (f key) (f value)
  | .interface methods => .interface methods
  | .basic name => .basic name

namespace TypeTable

/-- The ids of the types of a table. -/
abbrev Inside (t : TypeTable) : Type := { id : TypeId // id.index.toNat < t.size }

/-- A permutation of the ids of a table as one of all ids: those outside the table stay. -/
def extend {t : TypeTable} (p : Equiv.Perm t.Inside) : Equiv.Perm TypeId := Equiv.Perm.ofSubtype p

/-- The table that has at `p id` what `t` has at `id`, with the ids inside it renamed as well. -/
def reorder (t : TypeTable) (p : Equiv.Perm t.Inside) : TypeTable where
  types := t.types.mapIdx fun i type =>
    ((t.get? ((extend p).symm ⟨UInt32.ofNat i⟩)).getD type).rename (extend p)

variable {t t' : TypeTable} {f : TypeId → TypeId}

theorem size_reorder (p : Equiv.Perm t.Inside) : (t.reorder p).size = t.size := by
  simp [reorder, size]

theorem extend_lt_size_iff (p : Equiv.Perm t.Inside) (id : TypeId) :
    (extend p id).index.toNat < t.size ↔ id.index.toNat < t.size :=
  Equiv.Perm.ofSubtype_apply_mem_iff_mem p id

/-- The type at `p id` of the new table is the type at `id` of the old one, renamed. -/
theorem get?_reorder (p : Equiv.Perm t.Inside) (id : TypeId) :
    (t.reorder p).get? (extend p id) = (t.get? id).map (Ty.rename (extend p)) := by
  rcases Nat.lt_or_ge id.index.toNat t.size with inside | outside
  · have moved := (extend_lt_size_iff p id).mpr inside
    obtain ⟨type, found⟩ : ∃ type, t.get? id = some type := ⟨_, Array.getElem?_eq_getElem inside⟩
    rw [get?, reorder, Array.getElem?_mapIdx, Array.getElem?_eq_getElem moved, UInt32.ofNat_toNat,
      Option.map_some, Equiv.symm_apply_apply, found]
    rfl
  · have stays : extend p id = id := Equiv.Perm.ofSubtype_apply_of_not_mem p (Nat.not_lt.mpr outside)
    rw [stays, get?_eq_none_of_size_le outside, get?_eq_none_of_size_le (size_reorder p ▸ outside)]
    rfl

/-! ### Look-ups in a renamed table -/

/-- `t'` has at `f id` what `t` has at `id`, renamed by `f`. -/
structure Renamed (t t' : TypeTable) (f : TypeId → TypeId) : Prop where
  injective : Function.Injective f
  size : t'.size = t.size
  get? : ∀ id, t'.get? (f id) = (t.get? id).map (Ty.rename f)

theorem renamed_reorder (p : Equiv.Perm t.Inside) : Renamed t (t.reorder p) (extend p) :=
  ⟨(extend p).injective, size_reorder p, get?_reorder p⟩

namespace Renamed

variable (h : Renamed t t' f)

include h

theorem deref_eq (id : TypeId) : t'.deref (f id) = f (t.deref id) := by
  rw [deref, deref, h.get? id]
  cases t.get? id with
  | none => rfl
  | some type => cases type <;> rfl

theorem named?_eq (id : TypeId) : t'.named? (f id) = t.named? id := by
  rw [named?, named?, h.get? id]
  cases t.get? id with
  | none => rfl
  | some type => cases type <;> rfl

theorem resultType?_eq (id : TypeId) : t'.resultType? (f id) = (t.resultType? id).map f := by
  rw [resultType?, resultType?, h.get? id]
  cases t.get? id with
  | none => rfl
  | some type =>
    cases type with
    | tuple elems => exact List.head?_map
    | _ => rfl

theorem next?_eq (id : TypeId) : t'.next? (f id) = (t.next? id).map f := by
  rw [next?, next?, h.get? id]
  cases t.get? id with
  | none => rfl
  | some type => cases type <;> rfl

/-- The comparison with the start of the chain comes out alike since `f` is injective. -/
theorem follow_eq (start : TypeId) : ∀ (steps : Nat) (current : TypeId),
    t'.follow (f start) steps (f current) = f (t.follow start steps current)
  | 0, _ => rfl
  | steps + 1, current => by
    rw [follow, follow, h.next?_eq current]
    cases t.next? current with
    | none => rfl
    | some next =>
      by_cases back : next = start
      · simp [back]
      · have apart : f next ≠ f start := fun same => back (h.injective same)
        simp [back, apart, follow_eq start steps next]

theorem underlying_eq (id : TypeId) : t'.underlying (f id) = f (t.underlying id) := by
  rw [underlying, underlying, h.size, h.follow_eq]

theorem structFields?_eq (id : TypeId) :
    t'.structFields? (f id) = (t.structFields? id).map (List.map (Field.rename f)) := by
  rw [structFields?, structFields?, h.underlying_eq, h.get?]
  cases t.get? (t.underlying id) with
  | none => rfl
  | some type => cases type <;> rfl

/-- A renamed table simulates the table it comes from. -/
theorem simulation : Simulation t t' f Set.univ where
  injOn := h.injective.injOn
  deref_mem _ _ := Set.mem_univ _
  field_mem _ _ _ _ _ _ := Set.mem_univ _
  deref id _ := h.deref_eq id
  structFields? id _ := h.structFields?_eq id
  package id _ := congrArg (Option.map Prod.snd) (h.named?_eq id)

end Renamed

end TypeTable

end PaginationLint
