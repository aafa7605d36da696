import PaginationLint.Result.CallSite

/-!
The message of a finding: one line that names the token fields, and one that says what to do.
-/

namespace PaginationLint.Message

/-- What is wrong. -/
def problem : String := "missing pagination handling for AWS SDK List API call"

/-- What comes of it. -/
def impact : String := "When there are many results, only the first page is returned."

/-- Names in a row: each but the last has a comma behind it. -/
def series : List String → String
  | [] => ""
  | [name] => "and " ++ name
  | name :: names => name ++ ", " ++ series names

/-- Names the token fields of the result. -/
def fieldsPhrase : List String → String
  | [] => ""
  | [name] => " (result has " ++ name ++ " field)"
  | names => " (result has " ++ series names ++ " fields)"

/-- Names what would fetch the other pages. -/
def paginatorPhrase (site : CallSite) : String :=
  match site.method, site.service with
  | some method, some _ => "New" ++ method ++ "Paginator"
  | _, _ => "a paginator"

/-- Names the variable that holds the result. -/
def holderPhrase : Option String → String
  | some name => name ++ "."
  | none => ""

/-- Names the field to read in a loop. -/
def tokenPhrase : List String → String
  | [] => ""
  | [name] => name ++ "."
  | name :: _ => name ++ " (or other pagination fields)."

/-- The message for a result with the given token fields. -/
def build (fields : List String) (holder : Option String) (site : CallSite) : String :=
  problem ++ fieldsPhrase fields ++ "\n" ++ impact ++ " Use " ++ paginatorPhrase site
    ++ " or loop with " ++ holderPhrase holder ++ tokenPhrase fields

end PaginationLint.Message
