import PaginationLint.Json.Document
import PaginationLint.Wire.Problem

/-!
Decoding of documents.

A record is an object with the keys of its fields in any order, or an array of its fields in the
order of their declaration. A variant is an object with its tag among the keys, or an array that
starts with its tag. A variant is read whole before its fields are looked at; everything else is
decoded as it is read, so the problem that is met first is the one reported.
-/

namespace PaginationLint.Wire

/-- Where a document is read from. -/
inductive Reading where
  /-- A value at hand. -/
  | value
  /-- A text, as it is read. -/
  | text
  /-- The inside of a variant, which has been read whole. -/
  | nested
  deriving DecidableEq, Repr

/-- The error of an array with more items than there are fields. -/
def Reading.surplus (reading : Reading) (length fields : Nat) : DecodeError :=
  match reading with
  | .value => .problem (.wrongLength length .fewerItems)
  | .text => .fault .malformed
  | .nested => .problem (.wrongLength length (.items fields))

/-- The error of a thing that is not what is wanted. -/
def mismatch (wanted : Wanted) : Draft → DecodeError
  | .null => .problem (.wrongType .null wanted)
  | .bool b => .problem (.wrongType (.flag b) wanted)
  | .number n => .problem (.wrongType (.number n) wanted)
  | .string s => .problem (.wrongType (.text s) wanted)
  | .array _ _ => .problem (.wrongType .list wanted)
  | .object _ _ => .problem (.wrongType .object wanted)
  | .unreadable f _ => .fault f

/-- Fails with a fault, if there is one. -/
def check : Option Fault → Except DecodeError PUnit
  | some f => .error (.fault f)
  | none => .ok ⟨⟩

/-- The bound of a whole number of 32 bits. -/
def wordBound : Int := 0x1_0000_0000

/-- A whole number of 32 bits. -/
def decodeWord (n : Int) : Except DecodeError Datum :=
  if 0 ≤ n ∧ n < wordBound then .ok (.word (UInt32.ofNat n.toNat))
  else .error (.problem (.wrongValue (.number (.int n)) .word))

namespace FieldSpec

/-- Is this the `null` of a field without a value? -/
def isNull (f : FieldSpec) (d : Draft) : Bool :=
  match f.absence, d with
  | .allowed, .null => true
  | _, _ => false

/-- The value of a missing field. -/
def default? (f : FieldSpec) : Option Datum :=
  match f.absence with
  | .refused => none
  | .allowed => some .absent
  | .filled value => some value

end FieldSpec

/-- The values of fields that an array is too short for; `done` is the number of fields in front of
these and `count` that of all. The first one that has to be there is reported by its place. -/
def fillIn (title : String) (count done : Nat) : List FieldSpec → Except DecodeError (List Datum)
  | [] => .ok []
  | f :: fs =>
    match f.default? with
    | some x => (fillIn title count (done + 1) fs).map (x :: ·)
    | none => .error (.problem (.wrongLength done (.fieldsOf title count)))

/-- Puts the fields that were found in order and fills in the others. -/
def gather (found : List (String × Datum)) : List FieldSpec → Except DecodeError (List Datum)
  | [] => .ok []
  | f :: fs =>
    match found.lookup f.key <|> f.default? with
    | some x => (gather found fs).map (x :: ·)
    | none => .error (.problem (.missingField f.key))

/-- The index of the variant with a given tag. A nested variant may also be named by its index. -/
def decodeTag (reading : Reading) (family : Family) (d : Draft) : Except DecodeError Nat :=
  let variants := family.variants
  match d, reading with
  | .string tag, _ =>
    match variants.findIdx? fun v => v.tag == tag with
    | some i => .ok i
    | none => .error (.problem (.unknownVariant tag (variants.map Variant.tag)))
  | .number (.int n), .nested =>
    if n < 0 then .error (mismatch .tag d)
    else if n.toNat < variants.length then .ok n.toNat
    else .error (.problem (.wrongValue (.number (.int n)) (.index variants.length)))
  | d, _ => .error (mismatch .tag d)

/-- Reads all members of a variant and finds its tag, if it is not `found` already. -/
def findTag (reading : Reading) (family : Family) (found : Option Nat) :
    List (Option String × Draft) → Except DecodeError (Option Nat)
  | [] => .ok found
  | (none, _) :: _ => .error (.fault .malformed)
  | (some key, d) :: rest =>
    if key = tagKey then
      if found.isSome then .error (.problem (.duplicateField tagKey))
      else do
        let index ← decodeTag reading family d
        findTag reading family (some index) rest
    else do
      check d.readingFault
      findTag reading family found rest

mutual

/-- Decodes what should have a given shape. -/
def decode (reading : Reading) : Shape → Draft → Except DecodeError Datum
  | .word, .number (.int n) => decodeWord n
  | .text, .string s => .ok (.text s)
  | .flag, .bool b => .ok (.flag b)
  | .list item, .array items tail => do
    let xs ← decodeItems reading item items
    check tail
    return .list xs
  | .record kind, .array items tail => do
    let xs ← decodeFields reading kind.title kind.fields.length kind.fields 0 items tail
    return .record kind xs
  | .record kind, .object members tail => do
    let found ← decodeMembers reading kind.isClosed kind.fields [] members
    check tail
    let xs ← gather found kind.fields
    return .record kind xs
  | .variant family, .array (tag :: items) tail => do
    let index ← decodeTag reading family tag
    check (Draft.readingFaultItems items)
    check tail
    let v := family.variants.getD index default
    let xs ← decodeFields .nested v.title v.fields.length v.fields 0 items none
    return .variant family index xs
  | .variant _, .array [] tail => do
    check tail
    .error (.problem (.missingField tagKey))
  | .variant family, .object members tail => do
    let found ← findTag reading family none members
    check tail
    match found with
    | none => .error (.problem (.missingField tagKey))
    | some index =>
      let v := family.variants.getD index default
      let found ← decodeMembers .nested false v.fields [] members
      let xs ← gather found v.fields
      return .variant family index xs
  | .word, d => .error (mismatch .word d)
  | .text, d => .error (mismatch .text d)
  | .flag, d => .error (mismatch .flag d)
  | .list _, d => .error (mismatch .list d)
  | .record kind, d => .error (mismatch (.record kind) d)
  | .variant family, d => .error (mismatch (.family family) d)

/-- Decodes the items of a list. -/
def decodeItems (reading : Reading) (item : Shape) : List Draft → Except DecodeError (List Datum)
  | [] => .ok []
  | d :: ds => do
    let x ← decode reading item d
    let xs ← decodeItems reading item ds
    return x :: xs

/-- Decodes fields that stand in order. `count` is the number of all fields and `done` that of
those in front of these. -/
def decodeFields (reading : Reading) (title : String) (count : Nat) :
    List FieldSpec → Nat → List Draft → Option Fault → Except DecodeError (List Datum)
  | fs, done, [], tail => do
    check tail
    fillIn title count done fs
  | [], done, d :: ds, _ => .error (reading.surplus (done + (d :: ds).length) count)
  | f :: fs, done, d :: ds, tail => do
    let x ← if f.isNull d then .ok .absent else decode reading f.shape d
    let xs ← decodeFields reading title count fs (done + 1) ds tail
    return x :: xs

/-- Decodes members as they come; `found` are the fields in front of them. Keys that are no fields
are refused if `closed`, else passed over. -/
def decodeMembers (reading : Reading) (closed : Bool) (fields : List FieldSpec)
    (found : List (String × Datum)) :
    List (Option String × Draft) → Except DecodeError (List (String × Datum))
  | [] => .ok found
  | (none, _) :: _ => .error (.fault .malformed)
  | (some key, d) :: rest =>
    match fields.find? fun f => f.key == key with
    | none =>
      if closed then .error (.problem (.unknownField key (fields.map FieldSpec.key)))
      else do
        check d.passingFault
        decodeMembers reading closed fields found rest
    | some f =>
      if (found.lookup key).isSome then .error (.problem (.duplicateField key))
      else do
        let x ← if f.isNull d then .ok .absent else decode reading f.shape d
        decodeMembers reading closed fields ((key, x) :: found) rest

end

/-- Decodes a value. -/
def decodeValue (shape : Shape) (v : Json) : Except DecodeError Datum :=
  decode .value shape (Draft.ofJson v)

/-- Decodes a text. -/
def decodeText (shape : Shape) (text : String) : Except DecodeError Datum := do
  let document := Document.ofText text
  let x ← decode .text shape document.root
  if document.trailing then .error (.fault .malformed) else .ok x

end PaginationLint.Wire
