import PaginationLint.Json.Basic
import PaginationLint.Wire.Schema

/-!
Encoding of data: every field is written, defaults included, and fields without a value are `null`.
-/

namespace PaginationLint.Wire.Datum

mutual

/-- The value of a datum. -/
def toJson : Datum → Json
  | .word n => .ofNat n.toNat
  | .text s => .string s
  | .flag b => .bool b
  | .absent => .null
  | .list items => .array (toJsonItems items)
  | .record kind fields => .object (toJsonMembers kind.fields fields)
  | .variant family index fields =>
    let v := family.variants.getD index default
    .object ((tagKey, .string v.tag) :: toJsonMembers v.fields fields)

/-- The values of the items of a list. -/
def toJsonItems : List Datum → List Json
  | [] => []
  | x :: xs => x.toJson :: toJsonItems xs

/-- The members of an object with given fields. -/
def toJsonMembers : List FieldSpec → List Datum → List (String × Json)
  | f :: fs, x :: xs => (f.key, x.toJson) :: toJsonMembers fs xs
  | _, _ => []

end

end PaginationLint.Wire.Datum
