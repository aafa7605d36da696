import PaginationLint.Disk.Basic
import PaginationLint.Disk.Path
import PaginationLint.Settings.Toml
import PaginationLint.Wire.Codec

/-!
Settings of a host, as a value or as a file.

A host without settings hands over `null`. A file is TOML or JSON by its extension, and it is read
before its extension is looked at.
-/

namespace PaginationLint

open Wire

namespace Settings

def toDatum (s : Settings) : Datum :=
  .record .settings [.list (s.customFields.map .text), .flag s.includeTests]

def ofDatum : Datum → Settings
  | .record _ [fields, tests] => ⟨fields.toItems.map Datum.toText, tests.toFlag⟩
  | _ => {}

instance : Codec Settings := ⟨.record .settings, toDatum, ofDatum⟩

end Settings

/-- Why there are no settings. -/
inductive ConfigError where
  /-- The value or the JSON text does not decode. -/
  | decode (e : DecodeError)
  | toml (path : String)
  | read (path : String) (e : ReadError)
  /-- The extension names no known format. -/
  | format (path : String)
  deriving DecidableEq, Repr

namespace ConfigError

/-- The code of an error. -/
def code : ConfigError → String
  | .decode _ => "awspagination::config::decode"
  | .toml _ => "awspagination::config::toml"
  | .read _ _ => "awspagination::config::read"
  | .format _ => "awspagination::config::format"

/-- What helps against an error. -/
def help? : ConfigError → Option String
  | .decode _ =>
    some "expected only `custom-fields` (list of strings) and `include-tests` (boolean)"
  | .format _ => some "settings files must end in `.toml` or `.json`"
  | _ => none

/-- The message of an error. -/
def message : ConfigError → String
  | .decode e => "invalid settings: " ++ e.message
  | .toml path => "invalid settings file '" ++ path ++ "'"
  | .read path _ => "failed to read settings file '" ++ path ++ "'"
  | .format path => "unsupported settings file '" ++ path ++ "'"

/-- What led to an error. -/
def cause? : ConfigError → Option String
  | .decode e => some e.message
  | .read _ e => some e.message
  | _ => none

end ConfigError

namespace Settings

/-- The settings of a value. -/
def decode : Json → Except ConfigError Settings
  | .null => .ok {}
  | v => (Wire.ofValue v).mapError .decode

/-- The settings of a file with the given path and text. -/
def ofFile (path text : String) : Except ConfigError Settings :=
  match Path.extension? path with
  | some "toml" =>
    match Toml.settings? text with
    | some s => .ok s
    | none => .error (.toml path)
  | some "json" => (Wire.ofText text).mapError .decode
  | _ => .error (.format path)

/-- The settings of the file at a path. -/
def load {m : Type → Type} [Monad m] [MonadDisk m] (path : String) :
    m (Except ConfigError Settings) := do
  match ← MonadDisk.read path with
  | .error e => return .error (.read path e)
  | .ok text => return ofFile path text

end Settings

end PaginationLint
