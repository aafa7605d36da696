import PaginationLint.Json.Basic
import PaginationLint.Json.Fault

/-!
A JSON document as far as its text can be read.

Whoever reads a document from its start meets its members in order and may stop at the first that
does not suit. A `Draft` therefore keeps everything in front of a fault and marks the place of the
fault. Some places are faults only for a reader who needs what stands there: a lone surrogate, a
number out of range, a bracket nested too deeply. A reader who passes over them goes on.
-/

namespace PaginationLint

/-- A document as far as it can be read. `tail` is the fault that stands where the next item, a
comma or the closing bracket should; `none` if the container is closed. -/
inductive Draft where
  | null
  | bool (b : Bool)
  | number (n : Number)
  | string (s : String)
  | array (items : List Draft) (tail : Option Fault)
  /-- A member without a key has one that cannot be read, only passed over. -/
  | object (members : List (Option String × Draft)) (tail : Option Fault)
  /-- What cannot be read: the fault for who reads it, and the one for who passes over it. -/
  | unreadable (reading : Fault) (passing : Option Fault)
  deriving Repr, Inhabited

namespace Draft

mutual
/-- The fault met first by who reads all of a draft. -/
def readingFault : Draft → Option Fault
  | .array items tail => readingFaultItems items <|> tail
  | .object members tail => readingFaultMembers members <|> tail
  | .unreadable reading _ => some reading
  | _ => none

/-- The fault met first by who reads all items. -/
def readingFaultItems : List Draft → Option Fault
  | [] => none
  | d :: ds => readingFault d <|> readingFaultItems ds

/-- The fault met first by who reads all members. -/
def readingFaultMembers : List (Option String × Draft) → Option Fault
  | [] => none
  | (none, _) :: _ => some .malformed
  | (some _, d) :: ms => readingFault d <|> readingFaultMembers ms
end

mutual
/-- The fault met first by who passes over a draft. -/
def passingFault : Draft → Option Fault
  | .array items tail => passingFaultItems items <|> tail
  | .object members tail => passingFaultMembers members <|> tail
  | .unreadable _ passing => passing
  | _ => none

/-- The fault met first by who passes over all items. -/
def passingFaultItems : List Draft → Option Fault
  | [] => none
  | d :: ds => passingFault d <|> passingFaultItems ds

/-- The fault met first by who passes over all members. -/
def passingFaultMembers : List (Option String × Draft) → Option Fault
  | [] => none
  | (_, d) :: ms => passingFault d <|> passingFaultMembers ms
end

mutual
/-- A value as a draft, which has no fault. -/
def ofJson : Json → Draft
  | .null => .null
  | .bool b => .bool b
  | .number n => .number n
  | .string s => .string s
  | .array items => .array (ofJsonItems items) none
  | .object members => .object (ofJsonMembers members) none

/-- Values as drafts. -/
def ofJsonItems : List Json → List Draft
  | [] => []
  | v :: vs => ofJson v :: ofJsonItems vs

/-- Members of a value as members of a draft. -/
def ofJsonMembers : List (String × Json) → List (Option String × Draft)
  | [] => []
  | (k, v) :: ms => (some k, ofJson v) :: ofJsonMembers ms
end

end Draft

end PaginationLint
