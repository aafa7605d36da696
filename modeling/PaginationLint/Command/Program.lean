import PaginationLint.Command.Arguments
import PaginationLint.Command.Fields
import PaginationLint.Command.Lint
import PaginationLint.Settings.Load

/-!
The program: from the arguments of the command line to a run.
-/

namespace PaginationLint

variable {m : Type → Type} [Monad m] [MonadDisk m]

/-- The version of the program. -/
def versionText : String := "awspagination 0.1.0\n"

/-- How the program is used. -/
def helpText : String :=
  "awspagination: find AWS SDK List API calls that only read the first page\n\n" ++
  "Usage: awspagination [OPTIONS] <COMMAND>\n\n" ++
  "Commands:\n" ++
  "  lint    Analyse program units for unhandled pagination\n" ++
  "  fields  Show the fields treated as pagination tokens\n" ++
  "  doc     Show the analyzer documentation\n" ++
  "  help    Print this message\n\n" ++
  "Options:\n" ++
  "  -v, --verbose...  Increase logging verbosity (-v: debug, -vv+: trace)\n" ++
  "  -h, --help        Print help\n" ++
  "  -V, --version     Print version\n\n" ++
  "Options of lint and fields:\n" ++
  "      --custom-fields <FIELDS>  Additional token field names (comma-separated, repeatable)\n" ++
  "      --include-tests           Also analyse *_test.go files\n" ++
  "      --config <FILE>           Settings file (.toml or .json) with `custom-fields` and " ++
  "`include-tests`\n\n" ++
  "Options of lint:\n" ++
  "      --format <FORMAT>  Output format: text or json [default: text]\n"

/-- The configuration that the settings of a run make. -/
def SettingsSource.resolve : SettingsSource → m (Except Report Config)
  | .flags customFields includeTests =>
    return .ok (.ofFlags (.collect (customFields.map .parse)) includeTests)
  | .file path => do
    match ← Settings.load path with
    | .ok settings => return .ok (.ofSettings settings)
    | .error e =>
      return .error
        { message := s!"Failed to load settings from '{path}'"
          causes := e.message :: e.cause?.toList
          help? := e.help?
          code? := some e.code }

/-- The event of a configuration. -/
def Config.event (config : Config) : Event :=
  ⟨.debug, "awspagination::commands", "configuration resolved",
    [("custom_fields", s!"{config.customFields.length}"),
      ("include_tests", s!"{config.includeTests}")]⟩

/-- Goes on with the configuration that the settings of a run make. -/
def withConfig (settings : SettingsSource) (next : Config → m Run) : m Run := do
  match ← settings.resolve with
  | .error report => return .fail report
  | .ok config => return (← next config).after [.log config.event]

/-- Runs a command. -/
def Command.run : Command → m Run
  | .lint paths format settings => withConfig settings (lintPaths paths format)
  | .fields settings => withConfig settings fun config => return .output (fieldsText config)
  | .doc => return .output (analyzerDoc ++ "\n")

/-- Runs the program. -/
def runProgram (arguments : List String) : m Run :=
  match Invocation.ofArguments arguments with
  | .error e => return ⟨[], .misused e.message⟩
  | .ok .help => return .output helpText
  | .ok .version => return .output versionText
  | .ok (.run verbosity command) => return (← command.run).shownAt verbosity

end PaginationLint
