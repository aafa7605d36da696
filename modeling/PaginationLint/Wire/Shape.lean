/-!
Shapes of the wire format.

The format has records, which are objects with fixed keys, and families of variants, which are
objects whose key `kind` names the variant and whose other keys are those of that variant. A
`Datum` is a document in normal form: fields in the order of their declaration, defaults filled in.
-/

namespace PaginationLint.Wire

/-- The records of the format. -/
inductive RecordKind where
  | unit | file | func | identifier | block | caseClause | commClause | field | span | settings
  deriving DecidableEq, Repr, Inhabited

/-- The families of variants of the format. -/
inductive Family where
  | decl | stmt | expr | type
  deriving DecidableEq, Repr, Inhabited

/-- What stands at a place of a document. -/
inductive Shape where
  /-- A whole number of 32 bits. -/
  | word
  | text
  | flag
  | list (item : Shape)
  | record (kind : RecordKind)
  | variant (family : Family)
  deriving DecidableEq, Repr, Inhabited

/-- A document in normal form. -/
inductive Datum where
  | word (n : UInt32)
  | text (s : String)
  | flag (b : Bool)
  /-- An optional field without a value. -/
  | absent
  | list (items : List Datum)
  | record (kind : RecordKind) (fields : List Datum)
  | variant (family : Family) (index : Nat) (fields : List Datum)
  deriving Repr, Inhabited

/-- What a missing field means. -/
inductive Absence where
  /-- The field has to be there. -/
  | refused
  /-- The field has no value, as if it were `null`. -/
  | allowed
  /-- The field has this value. -/
  | filled (value : Datum)
  deriving Repr, Inhabited

/-- A field of a record or of a variant. -/
structure FieldSpec where
  key : String
  shape : Shape
  absence : Absence
  deriving Repr, Inhabited

/-- A variant of a family. `title` is its name in messages. -/
structure Variant where
  tag : String
  title : String
  fields : List FieldSpec
  deriving Repr, Inhabited

/-- The key of the tag of a variant. -/
def tagKey : String := "kind"

/-- The fields of a datum, if it is a record or a variant. -/
def Datum.fields : Datum → List Datum
  | .record _ fields | .variant _ _ fields => fields
  | _ => []

end PaginationLint.Wire
