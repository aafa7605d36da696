import PaginationLint.Proofs.Result.Simulation
import PaginationLint.Proofs.Types.Chain

/-!
What is seen of a type.

The outline of a type leaves out what no judgement depends on: the name of a declared type, and all
of a type that is neither a pointer nor declared, a struct or a tuple. An id outside the table has
the same outline as such a type. Two tables with the same outlines, on a set of ids that no type
leads out of, simulate each other there, whatever their sizes are.
-/

namespace PaginationLint

/-- The part of a type that is looked at. -/
def Ty.outline : Ty → Ty
  | .pointer elem => .pointer elem
  | .named _ package underlying => .named "" package underlying
  | .struct fields => .struct fields
  | .tuple elems => .tuple elems
  | .slice _ | .map _ _ | .interface _ | .basic _ => .basic ""

/-- The ids in a type. -/
def Ty.ids : Ty → List TypeId
  | .pointer elem | .slice elem => [elem]
  | .named _ _ underlying => [underlying]
  | .struct fields => fields.map Field.type
  | .tuple elems => elems
  | .map key value => [key, value]
  | .interface _ | .basic _ => []

theorem Ty.mem_ids_of_outline {type : Ty} {id : TypeId} (h : id ∈ type.outline.ids) :
    id ∈ type.ids := by
  cases type <;> first | exact h | cases h

namespace TypeTable

/-- The outline of the type with a given id. -/
def outline (t : TypeTable) (id : TypeId) : Ty := ((t.get? id).map Ty.outline).getD (.basic "")

section Outline

variable (t : TypeTable) (id : TypeId)

theorem deref_eq_outline : t.deref id = match t.outline id with
    | .pointer elem => elem
    | _ => id := by
  rw [deref, outline]
  cases t.get? id with
  | none => rfl
  | some type => cases type <;> rfl

theorem package_eq_outline : (t.named? id).map Prod.snd = match t.outline id with
    | .named _ package _ => some package
    | _ => none := by
  rw [named?, outline]
  cases t.get? id with
  | none => rfl
  | some type => cases type <;> rfl

theorem next?_eq_outline : t.next? id = match t.outline id with
    | .named _ _ underlying => some underlying
    | _ => none := by
  rw [next?, outline]
  cases t.get? id with
  | none => rfl
  | some type => cases type <;> rfl

theorem resultType?_eq_outline : t.resultType? id = match t.outline id with
    | .tuple elems => elems.head?
    | _ => some id := by
  rw [resultType?, outline]
  cases t.get? id with
  | none => rfl
  | some type => cases type <;> rfl

theorem get?_eq_struct_iff {fields : List Field} :
    t.get? id = some (.struct fields) ↔ t.outline id = .struct fields := by
  rw [outline]
  cases t.get? id with
  | none => simp
  | some type => cases type <;> simp [Ty.outline]

end Outline

/-- `t'` has the outlines that `t` has, on a set of ids that no type leads out of. -/
structure LooksAlike (t t' : TypeTable) (ids : Set TypeId) : Prop where
  outline : ∀ id ∈ ids, t'.outline id = t.outline id
  closed : ∀ id ∈ ids, ∀ x ∈ (t.outline id).ids, x ∈ ids

namespace LooksAlike

variable {t t' : TypeTable} {ids : Set TypeId} {id : TypeId} (alike : LooksAlike t t' ids)

include alike

theorem deref_mem (h : id ∈ ids) : t.deref id ∈ ids := by
  have closed := alike.closed id h
  rw [deref_eq_outline]
  split
  next elem shape => exact closed elem (by rw [shape]; exact List.mem_singleton_self _)
  · exact h

theorem resultType?_mem (h : id ∈ ids) {result : TypeId} (found : t.resultType? id = some result) :
    result ∈ ids := by
  have closed := alike.closed id h
  rw [resultType?_eq_outline] at found
  split at found
  next elems shape => exact closed result (by rw [shape]; exact List.mem_of_head? found)
  · exact Option.some.inj found ▸ h

theorem resultType?_eq (h : id ∈ ids) : t'.resultType? id = t.resultType? id := by
  rw [resultType?_eq_outline, resultType?_eq_outline, alike.outline id h]

theorem next?_eq (h : id ∈ ids) : t'.next? id = t.next? id := by
  rw [next?_eq_outline, next?_eq_outline, alike.outline id h]

theorem next?_mem (h : id ∈ ids) {next : TypeId} (named : t.next? id = some next) :
    next ∈ ids := by
  have closed := alike.closed id h
  rw [next?_eq_outline] at named
  split at named
  next shape =>
    rw [Option.some.inj named] at shape
    exact closed next (by rw [shape]; exact List.mem_singleton_self _)
  · cases named

theorem links : LinksAlike t t' ids where
  next?_mem _ h _ named := alike.next?_mem h named
  next?_eq _ h := alike.next?_eq h
  struct_iff id h fields := by
    rw [get?_eq_struct_iff, get?_eq_struct_iff, alike.outline id h]

theorem field_mem (h : id ∈ ids) {fields : List Field} (found : t.structFields? id = some fields)
    {x : Field} (hx : x ∈ fields) : x.type ∈ ids := by
  obtain ⟨later, last, chain, struct⟩ := structFields?_eq_some_iff.mp found
  have hlast := (alike.links.nameChain h chain).1
  rw [get?_eq_struct_iff] at struct
  exact alike.closed last hlast x.type (by rw [struct]; exact List.mem_map_of_mem hx)

theorem simulation : Simulation t t' (fun id => id) ids where
  injOn _ _ _ _ same := same
  deref_mem _ h := alike.deref_mem h
  field_mem _ h _ found _ hx := alike.field_mem h found hx
  deref id h := by rw [deref_eq_outline, alike.outline id h, ← deref_eq_outline]
  structFields? id h := by
    rw [alike.links.structFields?_eq h, funext Field.rename_id, Option.map_id']
  package id h := by rw [package_eq_outline, alike.outline id h, ← package_eq_outline]

end LooksAlike

end TypeTable

end PaginationLint
