import PaginationLint.Wire.Decode
import PaginationLint.Wire.Encode
import PaginationLint.Wire.Syntax

/-!
What can be sent and received: a type with a shape and a normal form is written as JSON and read
from a value or from a text.
-/

namespace PaginationLint.Wire

/-- A type that has a place in the wire format. -/
class Codec (α : Type) where
  shape : Shape
  toDatum : α → Datum
  ofDatum : Datum → α

instance : Codec ProgramUnit := ⟨.record .unit, ProgramUnit.toDatum, ProgramUnit.ofDatum⟩
instance : Codec SourceFile := ⟨.record .file, SourceFile.toDatum, SourceFile.ofDatum⟩
instance : Codec Decl := ⟨.variant .decl, Decl.toDatum, Decl.ofDatum⟩
instance : Codec Block := ⟨.record .block, Block.toDatum, Block.ofDatum⟩
instance : Codec Stmt := ⟨.variant .stmt, Stmt.toDatum, Stmt.ofDatum⟩
instance : Codec Expr := ⟨.variant .expr, Expr.toDatum, Expr.ofDatum⟩
instance : Codec TypeTable := ⟨.list (.variant .type), TypeTable.toDatum, TypeTable.ofDatum⟩
instance : Codec Ty := ⟨.variant .type, Ty.toDatum, Ty.ofDatum⟩
instance : Codec Span := ⟨.record .span, Span.toDatum, Span.ofDatum⟩

variable {α : Type} [Codec α]

/-- Writes a value of the format. -/
def encode (a : α) : Json := (Codec.toDatum a).toJson

/-- Reads a value of the format. -/
def ofValue (v : Json) : Except DecodeError α := (decodeValue (Codec.shape α) v).map Codec.ofDatum

/-- Reads a text of the format. -/
def ofText (text : String) : Except DecodeError α :=
  (decodeText (Codec.shape α) text).map Codec.ofDatum

end PaginationLint.Wire
