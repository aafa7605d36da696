import PaginationLint.Command.Invocation

/-!
Arguments of the command line.

The words before the name of a command are options of the program, those behind it belong to the
command. The first word that makes no sense decides, except that two options that exclude each
other and a missing path show only at the end; a word that asks for help before that is heard.
-/

namespace PaginationLint

/-! ### Words -/

/-- The form of an argument. -/
inductive Word where
  /-- Two dashes alone: no option follows. -/
  | divider
  /-- A name behind two dashes, with what follows its equals sign. -/
  | long (name : String) (value : Option String)
  /-- Letters behind one dash. -/
  | short (letters : List Char)
  | plain
  deriving DecidableEq, Repr

/-- The form of an argument. -/
def Word.of (word : String) : Word :=
  match word.toList with
  | ['-', '-'] => .divider
  | '-' :: '-' :: cs =>
    let name := String.ofList (cs.takeWhile (· != '='))
    match cs.dropWhile (· != '=') with
    | [] => .long name none
    | _ :: value => .long name (some (String.ofList value))
  | '-' :: c :: cs => .short (c :: cs)
  | _ => .plain

/-- Why the words of a command are read no further. -/
inductive Halt where
  | help
  | misused (e : UsageError)
  deriving DecidableEq, Repr

/-! ### Words of a command -/

/-- A kind of command. -/
inductive CommandKind where
  | lint
  | fields
  | doc
  deriving DecidableEq, Repr, Inhabited

/-- The kind of a command by its name. -/
def CommandKind.ofName? : String → Option CommandKind
  | "lint" => some .lint
  | "fields" => some .fields
  | "doc" => some .doc
  | _ => none

/-- An option of a command that takes a value. -/
inductive ValueOption where
  | format
  | customFields
  | config
  deriving DecidableEq, Repr

/-- The option of a command by its name. -/
def CommandKind.valueOption? (kind : CommandKind) (name : String) : Option ValueOption :=
  match kind, name with
  | .lint, "format" => some .format
  | .lint, "custom-fields" | .fields, "custom-fields" => some .customFields
  | .lint, "config" | .fields, "config" => some .config
  | _, _ => none

/-- Can tests be included by a command? -/
def CommandKind.takesTests : CommandKind → Bool
  | .lint | .fields => true
  | .doc => false

/-- What the words of a command say so far. -/
structure Given where
  /-- How often the log was asked for. -/
  verbose : Nat := 0
  paths : List String := []
  format? : Option Format := none
  customFields : List String := []
  includeTests : Bool := false
  config? : Option String := none
  deriving DecidableEq, Repr, Inhabited

namespace Given

/-- Takes a path. -/
def addPath (given : Given) (kind : CommandKind) (word : String) : Except Halt Given :=
  if kind = .lint then .ok { given with paths := given.paths ++ [word] }
  else .error (.misused (.unexpected word))

/-- Takes letters behind a dash. -/
def addLetters (given : Given) (word : String) : List Char → Except Halt Given
  | [] => .ok given
  | 'v' :: cs => addLetters { given with verbose := given.verbose + 1 } word cs
  | 'h' :: _ => .error .help
  | _ => .error (.misused (.unexpected word))

/-- Takes an option that has no value. -/
def addFlag (given : Given) (kind : CommandKind) (name : String) : Except Halt Given :=
  match name with
  | "verbose" => .ok { given with verbose := given.verbose + 1 }
  | "help" => .error .help
  | "include-tests" =>
    if !kind.takesTests then .error (.misused (.unexpected "--include-tests"))
    else if given.includeTests then .error (.misused (.repeated "--include-tests"))
    else .ok { given with includeTests := true }
  | name => .error (.misused (.unexpected s!"--{name}"))

/-- Takes an option and its value. -/
def addValue (given : Given) (option : ValueOption) (value : String) : Except Halt Given :=
  match option with
  | .format =>
    match value, given.format? with
    | "text", none => .ok { given with format? := some .text }
    | "json", none => .ok { given with format? := some .json }
    | "text", some _ | "json", some _ => .error (.misused (.repeated "--format"))
    | _, _ => .error (.misused (.badValue "--format" value))
  | .customFields => .ok { given with customFields := given.customFields ++ [value] }
  | .config =>
    if given.config?.isSome then .error (.misused (.repeated "--config"))
    else .ok { given with config? := some value }

/-- Reads the words of a command. -/
def read (kind : CommandKind) (given : Given) : List String → Except Halt Given
  | [] => .ok given
  | word :: rest =>
    match Word.of word with
    | .divider => rest.foldlM (fun given path => given.addPath kind path) given
    | .plain => do read kind (← given.addPath kind word) rest
    | .short letters => do read kind (← given.addLetters word letters) rest
    | .long name attached =>
      match kind.valueOption? name, attached with
      | some option, some value => do read kind (← given.addValue option value) rest
      | some option, none =>
        match rest with
        | value :: rest =>
          if Word.of value = .plain then do read kind (← given.addValue option value) rest
          else .error (.misused (.noValue word))
        | [] => .error (.misused (.noValue word))
      | none, some _ => .error (.misused (.needlessValue word))
      | none, none => do read kind (← given.addFlag kind name) rest

/-- Where the settings come from. A settings file excludes the other options. -/
def settings (given : Given) : Except UsageError SettingsSource :=
  match given.config? with
  | none => .ok (.flags given.customFields given.includeTests)
  | some path =>
    if !given.customFields.isEmpty then .error (.excluded "--config" "--custom-fields")
    else if given.includeTests then .error (.excluded "--config" "--include-tests")
    else .ok (.file path)

/-- The command that the words make. -/
def command (given : Given) : CommandKind → Except UsageError Command
  | .lint => do
    let settings ← given.settings
    if given.paths.isEmpty then .error .noPath
    else .ok (.lint given.paths (given.format?.getD .text) settings)
  | .fields => do return .fields (← given.settings)
  | .doc => .ok .doc

end Given

/-! ### The whole line -/

namespace Invocation

/-- Reads the words of a command of a kind. Asking for the log behind the name of the command
overrides asking for it before. -/
def ofCommand (verbose : Nat) (kind : CommandKind) (words : List String) :
    Except UsageError Invocation :=
  match ({} : Given).read kind words with
  | .error .help => .ok .help
  | .error (.misused e) => .error e
  | .ok given => do
    let command ← given.command kind
    return .run (if given.verbose = 0 then verbose else given.verbose) command

/-- Reads what help is asked about: nothing, or one command. -/
def ofHelp : List String → Except UsageError Invocation
  | [] => .ok .help
  | [word] =>
    if (CommandKind.ofName? word).isSome || word == "help" then .ok .help
    else .error (.unknownCommand word)
  | word :: next :: _ =>
    if (CommandKind.ofName? word).isSome || word == "help" then .error (.unknownCommand next)
    else .error (.unknownCommand word)

/-- Reads letters behind a dash before the command: how often the log is asked for, or the end of
the line. -/
def readLetters (word : String) (verbose : Nat) :
    List Char → Except UsageError (Nat ⊕ Invocation)
  | [] => .ok (.inl verbose)
  | 'v' :: cs => readLetters word (verbose + 1) cs
  | 'h' :: _ => .ok (.inr .help)
  | 'V' :: _ => .ok (.inr .version)
  | _ => .error (.unexpected word)

/-- Reads the words of a line, where the log has been asked for some times. -/
def read (verbose : Nat) : List String → Except UsageError Invocation
  | [] => .error .noCommand
  | word :: rest =>
    match Word.of word with
    | .plain =>
      if word = "help" then ofHelp rest
      else
        match CommandKind.ofName? word with
        | some kind => ofCommand verbose kind rest
        | none => .error (.unknownCommand word)
    | .long "verbose" none => read (verbose + 1) rest
    | .long "help" none => .ok .help
    | .long "version" none => .ok .version
    | .short letters =>
      match readLetters word verbose letters with
      | .ok (.inl verbose) => read verbose rest
      | .ok (.inr invocation) => .ok invocation
      | .error e => .error e
    | .divider | .long _ _ => .error (.unexpected word)

/-- The meaning of a line of arguments. -/
def ofArguments (arguments : List String) : Except UsageError Invocation := read 0 arguments

end Invocation

end PaginationLint
