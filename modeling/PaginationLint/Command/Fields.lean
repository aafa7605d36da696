import PaginationLint.Settings.Config

/-!
The list of token fields, as it is shown to the user.
-/

namespace PaginationLint

/-- The token fields of a run, and those of single services. -/
def fieldsText (config : Config) : String :=
  let default name := s!"  {name}\n"
  let custom name := s!"  {name} (custom)\n"
  let service (entry : String × List String) :=
    s!"  {entry.1}: " ++ ", ".intercalate entry.2 ++ "\n"
  "Token fields (in priority order):\n" ++
    String.join (defaultTokenFields.map default ++ config.customFields.map custom) ++
    "\nService-specific fields (take precedence when present):\n" ++
    String.join (serviceTable.map service)

end PaginationLint
