import PaginationLint.Sdk.TokenFields
import PaginationLint.Settings.CustomFields

/-!
Settings of a run.
-/

namespace PaginationLint

/-- What a host's settings say. -/
structure Settings where
  customFields : List String := []
  includeTests : Bool := false
  deriving DecidableEq, Repr, Inhabited

/-- The settings of one run. -/
structure Config where
  customFields : List String := []
  includeTests : Bool := false
  deriving DecidableEq, Repr, Inhabited

namespace Config

/-- The settings given by flags. -/
def ofFlags (fields : CustomFields) (includeTests : Bool) : Config := ⟨fields.names, includeTests⟩

/-- The settings given by a host. -/
def ofSettings (s : Settings) : Config := ⟨s.customFields, s.includeTests⟩

/-- The names looked for in a result: the defaults, then the custom ones. -/
def tokenFields (c : Config) : List String := defaultTokenFields ++ c.customFields

end Config

end PaginationLint
