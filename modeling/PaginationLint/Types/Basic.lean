/-!
Types of a program unit.

Types refer to each other by id, so that a type may contain itself. An id is an identity: two
references to one declared type have the same id.
-/

namespace PaginationLint

/-- The identity of a type: its place in the type table. -/
structure TypeId where
  index : UInt32
  deriving DecidableEq, Hashable, Repr, Inhabited

/-- A field of a struct. An embedded field lends its own fields to the struct. -/
structure Field where
  name : String
  type : TypeId
  embedded : Bool := false
  deriving DecidableEq, Repr, Inhabited

/-- A resolved type. -/
inductive Ty where
  | pointer (elem : TypeId)
  /-- A declared type; a predeclared one has no package. -/
  | named (name : String) (package : Option String) (underlying : TypeId)
  | struct (fields : List Field)
  /-- The results of a call that returns several values. -/
  | tuple (elems : List TypeId)
  | slice (elem : TypeId)
  | map (key value : TypeId)
  | interface (methods : List String)
  /-- Any other type, known by its spelling only. -/
  | basic (name : String)
  deriving DecidableEq, Repr

instance : Inhabited Ty := ⟨.basic ""⟩

end PaginationLint
