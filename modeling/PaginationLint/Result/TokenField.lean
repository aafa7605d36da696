import PaginationLint.Sdk.TokenFields
import PaginationLint.Types.Search

/-!
Pagination token fields of a result type.

A field counts if the struct declares it or an embedded field lends it. Fields of the struct itself
come before those of its embedded fields, whatever the order of the names looked for. The best of
several names is looked for in the order of declaration; for a single name, where the order is of no
consequence, the last embedded field comes first.
-/

namespace PaginationLint

/-- Do the fields include one of a given name? -/
def declares (fields : List Field) (name : String) : Bool := fields.any fun f => f.name == name

/-- The fields that lend their own, in the order of their declaration. -/
def embeddedFields (fields : List Field) : List Field := fields.filter Field.embedded

namespace TypeTable

/-- The first of the names that is a field of the struct itself. -/
def directField? (t : TypeTable) (names : List String) (id : TypeId) : Option String :=
  match t.structFields? id with
  | some fields => names.find? (declares fields)
  | none => none

/-- The best of the names that is a field of the type. -/
def tokenField? (t : TypeTable) (id : TypeId) (names : List String) : Option String :=
  t.search embeddedFields (t.directField? names) id

/-- Is `name` a field of the struct itself? -/
def hasDirectField (t : TypeTable) (name : String) (id : TypeId) : Bool :=
  match t.structFields? id with
  | some fields => declares fields name
  | none => false

/-- Is `name` a field of the type? -/
def hasField (t : TypeTable) (id : TypeId) (name : String) : Bool :=
  (t.search (fun fields => (embeddedFields fields).reverse)
    (fun id => if t.hasDirectField name id then some () else none) id).isSome

/-- Those token fields of a service of its own that the type has. -/
def ownTokenFields (t : TypeTable) (id : TypeId) (service : Option String) : List String :=
  ((service.bind serviceTokenFields).getD []).filter (t.hasField id)

/-- The token fields that apply to a result: those of the service if the type has any, else the
best of the defaults. A result without any is not paginated. -/
def applicableTokenFields (t : TypeTable) (id : TypeId) (service : Option String)
    (defaults : List String) : List String :=
  match t.ownTokenFields id service with
  | [] => (t.tokenField? id defaults).toList
  | own => own

end TypeTable

end PaginationLint
