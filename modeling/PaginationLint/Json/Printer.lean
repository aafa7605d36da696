import PaginationLint.Json.Basic
import PaginationLint.Json.Quoted

/-!
JSON values as compact text: no blanks, members in their order.
-/

namespace PaginationLint.Json

mutual
/-- The characters of a value. -/
def print : Json → List Char
  | .null => ['n', 'u', 'l', 'l']
  | .bool true => ['t', 'r', 'u', 'e']
  | .bool false => ['f', 'a', 'l', 's', 'e']
  | .number n => n.render.toList
  | .string s => Quoted.literal s
  | .array items => '[' :: printItems items ++ [']']
  | .object members => '\x7b' :: printMembers members ++ ['\x7d']

/-- The items of an array, with commas between them. -/
def printItems : List Json → List Char
  | [] => []
  | [v] => print v
  | v :: vs => print v ++ ',' :: printItems vs

/-- The members of an object, with commas between them. -/
def printMembers : List (String × Json) → List Char
  | [] => []
  | [(k, v)] => Quoted.literal k ++ ':' :: print v
  | (k, v) :: ms => Quoted.literal k ++ ':' :: print v ++ ',' :: printMembers ms
end

/-- The compact text of a value. -/
def compact (v : Json) : String := String.ofList v.print

end PaginationLint.Json
