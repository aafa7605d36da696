/-!
Events of a run, for its log.
-/

namespace PaginationLint

/-- How much detail an event is. -/
inductive Level where
  | info
  | debug
  | trace
  deriving DecidableEq, Repr, Inhabited

namespace Level

/-- The name of a level. -/
def name : Level → String
  | .info => "INFO"
  | .debug => "DEBUG"
  | .trace => "TRACE"

/-- The least verbosity at which events of a level are shown. -/
def verbosity : Level → Nat
  | .info => 0
  | .debug => 1
  | .trace => 2

end Level

/-- Something that happened in a run. -/
structure Event where
  level : Level
  /-- The part of the program where it happened. -/
  origin : String
  message : String
  details : List (String × String) := []
  deriving DecidableEq, Repr, Inhabited

/-- The line of an event. -/
def Event.render (e : Event) : String :=
  s!"{e.level.name} {e.origin}: {e.message}" ++
    String.join (e.details.map fun (key, value) => s!" {key}={value}")

end PaginationLint
