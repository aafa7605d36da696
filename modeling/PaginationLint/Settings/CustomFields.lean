/-!
Token field names given as flags.

A flag holds names with commas between them; an empty flag holds none. Flags given several times
add up.
-/

namespace PaginationLint

/-- Names of token fields, in the order in which they were given. -/
structure CustomFields where
  names : List String := []
  deriving DecidableEq, Repr, Inhabited

namespace CustomFields

/-- The parts of a text between its commas. -/
def splitCommas : List Char → List (List Char)
  | [] => [[]]
  | c :: cs =>
    if c = ',' then [] :: splitCommas cs
    else
      match splitCommas cs with
      | part :: parts => (c :: part) :: parts
      | [] => [[c]]

/-- The names of a flag. -/
def namesOf (value : String) : List String :=
  if value = "" then [] else (splitCommas value.toList).map String.ofList

/-- Adds the names of a flag. -/
def extend (fields : CustomFields) (value : String) : CustomFields :=
  ⟨fields.names ++ namesOf value⟩

/-- The names of a single flag. -/
def parse (value : String) : CustomFields := ({} : CustomFields).extend value

/-- The names of several flags. -/
def collect (fields : List CustomFields) : CustomFields := ⟨fields.flatMap names⟩

/-- The names with commas between them. -/
def render (fields : CustomFields) : String := ",".intercalate fields.names

end CustomFields

end PaginationLint
