import Mathlib.Logic.Relation
import PaginationLint.Proofs.Result.Simulation
import PaginationLint.Proofs.Types.Chain

/-!
Tables that grow.

An id is enclosed if pointers, names and fields lead from it to ids inside the table only. A larger
table says the same about an enclosed id, since the added types are out of its reach: on what can be
reached from it, the larger table simulates the smaller one.
-/

namespace PaginationLint

/-- The ids that a type refers to as a pointer, as a name or by its fields. -/
def Ty.refs : Ty → List TypeId
  | .pointer elem => [elem]
  | .named _ _ underlying => [underlying]
  | .struct fields => fields.map Field.type
  | .tuple _ | .slice _ | .map _ _ | .interface _ | .basic _ => []

namespace TypeTable

open Relation (ReflTransGen)

variable {t t' t'' : TypeTable} {id d e : TypeId} {type : Ty}

/-! ### References -/

/-- The type `d` refers to `e`. -/
def Refers (t : TypeTable) (d e : TypeId) : Prop := ∃ type, t.get? d = some type ∧ e ∈ type.refs

/-- The ids that references lead to from `id`, itself included. -/
def reach (t : TypeTable) (id : TypeId) : Set TypeId := { d | ReflTransGen t.Refers id d }

/-- References do not lead out of the table. -/
def Enclosed (t : TypeTable) (id : TypeId) : Prop := ∀ d ∈ t.reach id, d.index.toNat < t.size

theorem reaches_deref (t : TypeTable) (d : TypeId) : ReflTransGen t.Refers d (t.deref d) := by
  unfold deref
  split
  · next elem found => exact .single ⟨_, found, List.mem_singleton_self elem⟩
  · exact .refl

theorem refers_of_next? (named : t.next? d = some e) : t.Refers d e := by
  obtain ⟨name, package, found⟩ := next?_eq_some_iff.mp named
  exact ⟨_, found, List.mem_singleton_self e⟩

theorem reaches_of_nameChain {later : List TypeId} (chain : t.NameChain d later e) :
    ReflTransGen t.Refers d e := by
  induction chain with
  | stop => exact .refl
  | step named _ ih => exact ih.head (refers_of_next? named)

/-- References lead to the types of a struct's fields, also from a name for the struct. -/
theorem reaches_field {fields : List Field} (struct : t.structFields? d = some fields) {x : Field}
    (hx : x ∈ fields) : ReflTransGen t.Refers d x.type := by
  obtain ⟨later, last, chain, found⟩ := structFields?_eq_some_iff.mp struct
  exact (reaches_of_nameChain chain).tail ⟨_, found, List.mem_map_of_mem hx⟩

/-- In a table whose references are all inside it, every id inside it is enclosed. -/
theorem enclosed_of_refs_lt
    (closed : ∀ type ∈ t.types.toList, ∀ e ∈ type.refs, e.index.toNat < t.size)
    (inside : id.index.toNat < t.size) : t.Enclosed id := by
  intro d reached
  induction reached with
  | refl => exact inside
  | tail _ refers _ =>
    obtain ⟨type, found, he⟩ := refers
    exact closed type (Array.mem_toList_iff.mpr (Array.mem_of_getElem? found)) _ he

/-! ### Larger tables -/

/-- The table `t'` has the types of `t` at the same ids, and possibly more. -/
structure Extends (t t' : TypeTable) : Prop where
  size_le : t.size ≤ t'.size
  get?_eq : ∀ id : TypeId, id.index.toNat < t.size → t'.get? id = t.get? id

theorem Extends.refl (t : TypeTable) : Extends t t := ⟨Nat.le_refl _, fun _ _ => rfl⟩

theorem Extends.trans (first : Extends t t') (second : Extends t' t'') : Extends t t'' := by
  refine ⟨Nat.le_trans first.size_le second.size_le, fun id inside => ?_⟩
  rw [second.get?_eq id (Nat.lt_of_lt_of_le inside first.size_le), first.get?_eq id inside]

namespace Enclosed

variable (enclosed : t.Enclosed id) (grown : Extends t t')

include enclosed grown

theorem get?_eq (h : d ∈ t.reach id) : t'.get? d = t.get? d := grown.get?_eq d (enclosed d h)

/-- What can be reached from an enclosed id stays the same. -/
theorem reach_eq : t'.reach id = t.reach id := by
  refine Set.ext fun d => ⟨fun reached => ?_, fun reached => ?_⟩
  · induction reached with
    | refl => exact ReflTransGen.refl
    | tail _ refers ih =>
      obtain ⟨type, found, he⟩ := refers
      rw [enclosed.get?_eq grown ih] at found
      exact ReflTransGen.tail ih ⟨type, found, he⟩
  · induction reached with
    | refl => exact ReflTransGen.refl
    | tail before refers ih =>
      obtain ⟨type, found, he⟩ := refers
      rw [← enclosed.get?_eq grown before] at found
      exact ReflTransGen.tail ih ⟨type, found, he⟩

theorem extend : t'.Enclosed id := by
  intro d reached
  rw [enclosed.reach_eq grown] at reached
  exact Nat.lt_of_lt_of_le (enclosed d reached) grown.size_le

theorem links : LinksAlike t t' (t.reach id) where
  next?_mem _ h _ named := ReflTransGen.tail h (refers_of_next? named)
  next?_eq d h := by rw [next?, next?, enclosed.get?_eq grown h]
  struct_iff d h fields := by rw [enclosed.get?_eq grown h]

/-- A larger table simulates the old one on what can be reached from an enclosed id. -/
theorem simulation : Simulation t t' (fun id => id) (t.reach id) where
  injOn _ _ _ _ same := same
  deref_mem d h := ReflTransGen.trans h (t.reaches_deref d)
  field_mem _ h _ struct _ hx := ReflTransGen.trans h (reaches_field struct hx)
  deref d h := by rw [deref, deref, enclosed.get?_eq grown h]
  structFields? d h := by
    rw [(enclosed.links grown).structFields?_eq h, funext Field.rename_id, Option.map_id']
  package d h := by rw [named?, named?, enclosed.get?_eq grown h]

end Enclosed

/-! ### Adding a type -/

theorem size_add (t : TypeTable) (type : Ty) : (t.add type).1.size = t.size + 1 :=
  Array.size_push ..

theorem extends_add (t : TypeTable) (type : Ty) : Extends t (t.add type).1 := by
  refine ⟨?_, fun id inside => ?_⟩
  · rw [size_add]
    exact Nat.le_succ _
  · exact (Array.getElem?_push_lt inside).trans (Array.getElem?_eq_getElem inside).symm

section Room

variable (room : t.size < UInt32.size)

include room

theorem index_add (type : Ty) : (t.add type).2.index.toNat = t.size := UInt32.toNat_ofNat_of_lt' room

/-- An added type stands at its id in the table and in all that extend it. -/
theorem get?_add (type : Ty) (grown : Extends (t.add type).1 t') :
    t'.get? (t.add type).2 = some type := by
  have inside : (t.add type).2.index.toNat < (t.add type).1.size := by
    rw [index_add room, size_add]
    exact Nat.lt_succ_self _
  rw [grown.get?_eq _ inside, get?, index_add room]
  exact Array.getElem?_push_size

/-- A type that refers to nothing but an enclosed id is enclosed itself. -/
theorem Enclosed.add (enclosed : t.Enclosed id) (only : ∀ e ∈ type.refs, e = id) :
    (t.add type).1.Enclosed (t.add type).2 := by
  intro d reached
  rcases ReflTransGen.cases_head reached with rfl | ⟨e, ⟨type', found, he⟩, rest⟩
  · rw [index_add room, size_add]
    exact Nat.lt_succ_self _
  · rw [get?_add room type (.refl _)] at found
    obtain rfl := Option.some.inj found
    rw [only e he] at rest
    exact enclosed.extend (t.extends_add _) d rest

end Room

end TypeTable

end PaginationLint
