import PaginationLint.Settings.Config
import PaginationLint.Settings.Toml.Token

/-!
Settings written in TOML.

Settings are two keys at the top of a document: a list of strings and a flag. So all that is read
of TOML is comments, keys without dots, the four kinds of strings, lists of strings and the two
flags; a document with anything else in it holds no settings.
-/

namespace PaginationLint.Toml

/-- The key of the list of token fields. -/
def fieldsKey : String := "custom-fields"

/-- The key of the flag for test files. -/
def testsKey : String := "include-tests"

/-- The settings read so far; each can be given once. -/
structure Gathered where
  fields : Option (List String) := none
  tests : Option Bool := none

/-- The settings of a whole document. -/
def Gathered.settings (p : Gathered) : Settings := ⟨p.fields.getD [], p.tests.getD false⟩

/-- What is being read. -/
inductive State where
  | lineStart
  /-- A key that waits for its equals sign. -/
  | key (k : String)
  /-- A key that waits for its value. -/
  | value (k : String)
  /-- A list that waits for an item or its end; items latest first. -/
  | item (items : List String)
  /-- A list that waits for a comma or its end. -/
  | comma (items : List String)
  | lineEnd

/-- What a token does. -/
def step (p : Gathered) : State → Token → Option (Gathered × State)
  | .lineStart, .newline | .lineEnd, .newline => some (p, .lineStart)
  | .lineStart, .word k => some (p, .key k)
  | .lineStart, .text k false => some (p, .key k)
  | .key k, .equals => some (p, .value k)
  | .value k, .word w =>
    if k = testsKey ∧ p.tests.isNone then
      if w = "true" then some ({ p with tests := some true }, .lineEnd)
      else if w = "false" then some ({ p with tests := some false }, .lineEnd)
      else none
    else none
  | .value k, .openList => if k = fieldsKey ∧ p.fields.isNone then some (p, .item []) else none
  | .item items, .newline => some (p, .item items)
  | .item items, .text s _ => some (p, .comma (s :: items))
  | .comma items, .newline => some (p, .comma items)
  | .comma items, .comma => some (p, .item items)
  | .item items, .closeList | .comma items, .closeList =>
    some ({ p with fields := some items.reverse }, .lineEnd)
  | _, _ => none

/-- Reads tokens to the end of a document. -/
def read (p : Gathered) (state : State) : List Token → Option Settings
  | [] =>
    match state with
    | .lineStart | .lineEnd => some p.settings
    | _ => none
  | token :: rest =>
    match step p state token with
    | some (p, state) => read p state rest
    | none => none

/-- A text without a byte order mark at its start. -/
def dropMark : List Char → List Char
  | '\uFEFF' :: rest => rest
  | cs => cs

/-- The settings of a document. -/
def settings? (text : String) : Option Settings :=
  (scan? (dropMark text.toList)).bind (read {} .lineStart)

end PaginationLint.Toml
