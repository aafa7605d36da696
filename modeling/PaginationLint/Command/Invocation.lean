import PaginationLint.Report.Finding

/-!
What a command line asks for, and why one makes no sense.
-/

namespace PaginationLint

/-- Where the settings of a run come from. -/
inductive SettingsSource where
  | flags (customFields : List String) (includeTests : Bool)
  | file (path : String)
  deriving DecidableEq, Repr, Inhabited

/-- What the program is asked to do. -/
inductive Command where
  | lint (paths : List String) (format : Format) (settings : SettingsSource)
  | fields (settings : SettingsSource)
  | doc
  deriving DecidableEq, Repr, Inhabited

/-- A line of arguments that makes sense. -/
inductive Invocation where
  | run (verbosity : Nat) (command : Command)
  | help
  | version
  deriving DecidableEq, Repr, Inhabited

/-- Why a line of arguments makes no sense. -/
inductive UsageError where
  | noCommand
  | unknownCommand (word : String)
  | unexpected (word : String)
  | noValue (option : String)
  | needlessValue (option : String)
  | badValue (option value : String)
  | repeated (option : String)
  | excluded (option other : String)
  | noPath
  deriving DecidableEq, Repr, Inhabited

/-- The reason in words. -/
def UsageError.message : UsageError → String
  | .noCommand => "a command is required"
  | .unknownCommand word => s!"unrecognized command '{word}'"
  | .unexpected word => s!"unexpected argument '{word}'"
  | .noValue option => s!"a value is required for '{option}'"
  | .needlessValue option => s!"'{option}' takes no value"
  | .badValue option value => s!"invalid value '{value}' for '{option}'"
  | .repeated option => s!"'{option}' cannot be used multiple times"
  | .excluded option other => s!"'{option}' cannot be used with '{other}'"
  | .noPath => "at least one path is required"

end PaginationLint
