import PaginationLint.Json.Basic
import PaginationLint.Json.Fault
import PaginationLint.Text.Escaped
import PaginationLint.Wire.Schema

/-!
Why a document does not decode, and how that is said.
-/

namespace PaginationLint.Wire

/-- What stands at a place. -/
inductive Found where
  | null
  | flag (b : Bool)
  | number (n : Number)
  | text (s : String)
  | list
  | object
  deriving DecidableEq, Repr

/-- What should stand at a place. -/
inductive Wanted where
  | word
  | text
  | flag
  | list
  | record (kind : RecordKind)
  | family (family : Family)
  /-- The tag of a variant. -/
  | tag
  /-- The index of a variant, below a bound. -/
  | index (bound : Nat)
  /-- All fields of something, in order. -/
  | fieldsOf (title : String) (count : Nat)
  /-- No more items than there are fields. -/
  | fewerItems
  /-- As many items as there are fields. -/
  | items (count : Nat)
  deriving DecidableEq, Repr

/-- Why a well-formed document does not decode. -/
inductive Problem where
  | wrongType (found : Found) (wanted : Wanted)
  | wrongValue (found : Found) (wanted : Wanted)
  | wrongLength (length : Nat) (wanted : Wanted)
  | missingField (key : String)
  | duplicateField (key : String)
  | unknownField (key : String) (known : List String)
  | unknownVariant (tag : String) (known : List String)
  deriving DecidableEq, Repr

/-- Why a text or a value does not decode. -/
inductive DecodeError where
  | problem (p : Problem)
  | fault (f : Fault)
  deriving DecidableEq, Repr

/-- Names a thing that was found. -/
def Found.phrase : Found → String
  | .null => "null"
  | .flag b => "boolean `" ++ toString b ++ "`"
  | .number (.int n) => "integer `" ++ toString n ++ "`"
  | .number (.real x) => "floating point `" ++ x.render ++ "`"
  | .text s => "string " ++ escaped s
  | .list => "sequence"
  | .object => "map"

/-- A number of elements. -/
def elements (count : Nat) : String :=
  if count = 1 then "1 element" else toString count ++ " elements"

/-- Names a thing that should be there. -/
def Wanted.phrase : Wanted → String
  | .word => "u32"
  | .text => "a string"
  | .flag => "a boolean"
  | .list => "a sequence"
  | .record kind => kind.title
  | .family f => "internally tagged enum " ++ f.title
  | .tag => "variant identifier"
  | .index bound => "variant index 0 <= i < " ++ toString bound
  | .fieldsOf title count => title ++ " with " ++ elements count
  | .fewerItems => "fewer elements in array"
  | .items count => elements count ++ " in sequence"

/-- Lists the names that would have been known. -/
def choices (names : List String) : String :=
  let quoted := names.map fun name => "`" ++ name ++ "`"
  match quoted with
  | [a] => a
  | [a, b] => a ++ " or " ++ b
  | _ => "one of " ++ ", ".intercalate quoted

/-- The message of a problem. -/
def Problem.message : Problem → String
  | .wrongType found wanted =>
    "invalid type: " ++ found.phrase ++ ", expected " ++ wanted.phrase
  | .wrongValue found wanted =>
    "invalid value: " ++ found.phrase ++ ", expected " ++ wanted.phrase
  | .wrongLength length wanted =>
    "invalid length " ++ toString length ++ ", expected " ++ wanted.phrase
  | .missingField key => "missing field `" ++ key ++ "`"
  | .duplicateField key => "duplicate field `" ++ key ++ "`"
  | .unknownField key known =>
    "unknown field `" ++ key ++ "`, expected " ++ choices known
  | .unknownVariant tag known =>
    "unknown variant `" ++ tag ++ "`, expected " ++ choices known

/-- The message of an error. -/
def DecodeError.message : DecodeError → String
  | .problem p => p.message
  | .fault .malformed => "malformed document"
  | .fault .cutShort => "document cut short"

end PaginationLint.Wire
