import PaginationLint.Source.Span
import PaginationLint.Types.Table
import PaginationLint.Wire.Schema

/-!
Spans, types and type tables on the wire.

`toDatum` gives the normal form of a value, and `ofDatum` takes it back. A datum that is not of the
right shape stands for a default.
-/

namespace PaginationLint

open Wire

namespace Wire.Datum

/-- The text of a datum. -/
def toText : Datum → String
  | .text s => s
  | _ => ""

/-- The flag of a datum. -/
def toFlag : Datum → Bool
  | .flag b => b
  | _ => false

/-- The items of a datum. -/
def toItems : Datum → List Datum
  | .list items => items
  | _ => []

/-- Is this a field without a value? -/
def isAbsent : Datum → Bool
  | .absent => true
  | _ => false

/-- An optional field. -/
def toOptional {α : Type} (read : Datum → α) (x : Datum) : Option α :=
  if x.isAbsent then none else some (read x)

/-- The datum of an optional field. -/
def ofOptional {α : Type} (write : α → Datum) : Option α → Datum
  | none => .absent
  | some a => write a

end Wire.Datum

namespace Span

def toDatum (s : Span) : Datum := .record .span [.word s.start, .word s.stop]

def ofDatum : Datum → Span
  | .record _ [.word start, .word stop] => ⟨start, stop⟩
  | _ => {}

end Span

namespace TypeId

def toDatum (id : TypeId) : Datum := .word id.index

def ofDatum : Datum → TypeId
  | .word n => ⟨n⟩
  | _ => ⟨0⟩

end TypeId

namespace Field

def toDatum (f : Field) : Datum := .record .field [.text f.name, f.type.toDatum, .flag f.embedded]

def ofDatum : Datum → Field
  | .record _ [name, type, embedded] => ⟨name.toText, .ofDatum type, embedded.toFlag⟩
  | _ => default

end Field

namespace Ty

def toDatum : Ty → Datum
  | .pointer elem => .variant .type 0 [elem.toDatum]
  | .named name package underlying =>
    .variant .type 1 [.text name, .ofOptional .text package, underlying.toDatum]
  | .struct fields => .variant .type 2 [.list (fields.map Field.toDatum)]
  | .tuple elems => .variant .type 3 [.list (elems.map TypeId.toDatum)]
  | .slice elem => .variant .type 4 [elem.toDatum]
  | .map key value => .variant .type 5 [key.toDatum, value.toDatum]
  | .interface methods => .variant .type 6 [.list (methods.map .text)]
  | .basic name => .variant .type 7 [.text name]

def ofDatum : Datum → Ty
  | .variant _ 0 [elem] => .pointer (.ofDatum elem)
  | .variant _ 1 [name, package, underlying] =>
    .named name.toText (package.toOptional Datum.toText) (.ofDatum underlying)
  | .variant _ 2 [fields] => .struct (fields.toItems.map Field.ofDatum)
  | .variant _ 3 [elems] => .tuple (elems.toItems.map TypeId.ofDatum)
  | .variant _ 4 [elem] => .slice (.ofDatum elem)
  | .variant _ 5 [key, value] => .map (.ofDatum key) (.ofDatum value)
  | .variant _ 6 [methods] => .interface (methods.toItems.map Datum.toText)
  | .variant _ 7 [name] => .basic name.toText
  | _ => default

end Ty

namespace TypeTable

def toDatum (t : TypeTable) : Datum := .list (t.types.toList.map Ty.toDatum)

def ofDatum (x : Datum) : TypeTable := ⟨(x.toItems.map Ty.ofDatum).toArray⟩

end TypeTable

end PaginationLint
