/-!
The first line of a message and the rest of it.

The headline ends at the first newline, and a carriage return just before that newline is no part
of it. The advice is all that follows the newline.
-/

namespace PaginationLint

/-- Splits at the first newline; the second part is `none` if there is none. -/
def splitLine : List Char → List Char × Option (List Char)
  | [] => ([], none)
  | c :: cs =>
    if c = '\n' then ([], some cs)
    else
      let (line, rest) := splitLine cs
      (c :: line, rest)

/-- A line without a carriage return at its end. -/
def dropReturn : List Char → List Char
  | [] => []
  | ['\r'] => []
  | c :: cs => c :: dropReturn cs

/-- The first line of a message. -/
def headline (message : String) : String :=
  match splitLine message.toList with
  | (line, none) => String.ofList line
  | (line, some _) => String.ofList (dropReturn line)

/-- What follows the first line of a message, if anything does. -/
def advice (message : String) : Option String := (splitLine message.toList).2.map String.ofList

end PaginationLint
