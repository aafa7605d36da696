import PaginationLint.Types.Basic

/-!
The type table of a program unit.

The type with id `i` is the `i`-th of the table. An id outside the table is an opaque type: it is
no pointer, has no name and no fields.
-/

namespace PaginationLint

/-- The types of a unit, in the order of their ids. -/
structure TypeTable where
  types : Array Ty := #[]
  deriving DecidableEq, Repr, Inhabited

namespace TypeTable

/-- The number of types. -/
def size (t : TypeTable) : Nat := t.types.size

/-- The type with a given id. -/
def get? (t : TypeTable) (id : TypeId) : Option Ty := t.types[id.index.toNat]?

/-- Adds a type; its id is the former size of the table. -/
def add (t : TypeTable) (type : Ty) : TypeTable × TypeId :=
  let id : TypeId := ⟨UInt32.ofNat t.size⟩
  (⟨t.types.push type⟩, id)

/-- What stands at an id that is reserved and not yet defined. -/
def reserved : Ty := .basic "<reserved>"

/-- Reserves an id for a type that refers to itself. -/
def reserve (t : TypeTable) : TypeTable × TypeId := t.add reserved

/-- Replaces the type at an id; nothing happens outside the table. -/
def define (t : TypeTable) (id : TypeId) (type : Ty) : TypeTable :=
  ⟨t.types.setIfInBounds id.index.toNat type⟩

/-- Strips one level of pointers. -/
def deref (t : TypeTable) (id : TypeId) : TypeId :=
  match t.get? id with
  | some (.pointer elem) => elem
  | _ => id

/-- The name and package of a declared type. -/
def named? (t : TypeTable) (id : TypeId) : Option (String × Option String) :=
  match t.get? id with
  | some (.named name package _) => some (name, package)
  | _ => none

/-- The type that a declared type is another name for. -/
def next? (t : TypeTable) (id : TypeId) : Option TypeId :=
  match t.get? id with
  | some (.named _ _ underlying) => some underlying
  | _ => none

/-- Follows names from `current` for at most the given number of steps; stops where the next step
would lead back to `start`. -/
def follow (t : TypeTable) (start : TypeId) : Nat → TypeId → TypeId
  | 0, current => current
  | steps + 1, current =>
    match t.next? current with
    | some next => if next = start then current else t.follow start steps next
    | none => current

/-- The type behind a chain of names. The number of steps exceeds the size of the table by one,
which no chain without a loop needs. -/
def underlying (t : TypeTable) (id : TypeId) : TypeId := t.follow id (t.size + 1) id

/-- The fields of a struct, or of a name for one. -/
def structFields? (t : TypeTable) (id : TypeId) : Option (List Field) :=
  match t.get? (t.underlying id) with
  | some (.struct fields) => some fields
  | _ => none

/-! ### Ids outside the table -/

theorem get?_eq_none_of_size_le {t : TypeTable} {id : TypeId} (h : t.size ≤ id.index.toNat) :
    t.get? id = none := by
  simpa [get?, size] using h

theorem underlying_eq_self_of_size_le {t : TypeTable} {id : TypeId}
    (h : t.size ≤ id.index.toNat) : t.underlying id = id := by
  simp [underlying, follow, next?, get?_eq_none_of_size_le h]

theorem structFields?_eq_none_of_size_le {t : TypeTable} {id : TypeId}
    (h : t.size ≤ id.index.toNat) : t.structFields? id = none := by
  simp [structFields?, underlying_eq_self_of_size_le h, get?_eq_none_of_size_le h]

end TypeTable

end PaginationLint
