import Mathlib.Data.List.Forall2
import PaginationLint.Command.Program
import PaginationLint.Disk.Tree
import PaginationLint.Proofs.Command.Lint
import PaginationLint.Proofs.Command.Units

/-!
The lint command, from its arguments to a run over unit files.

The settings are resolved first, then all paths, and only then is a unit read. So a run has two
shapes: the settings make no configuration or some path names no units, and the run is a report; or
each path names its units, and the run goes through all of them.
-/

namespace PaginationLint

variable {ρ : Type} [MonadDisk (ReaderM ρ)] (disk : ρ)

/-- The configuration that settings make. -/
def configAt (settings : SettingsSource) : Except Report Config :=
  (settings.resolve : ReaderM ρ (Except Report Config)).run disk

/-- The unit files that a path names: the file itself, or exactly the units below a directory, each
standing before those behind it. -/
inductive NamesUnits (path : String) : List String → Prop
  | file (leads : lookAt disk path = .file) (extension : Path.extension? path = some "json") :
      NamesUnits path [path]
  | directory {listing : Listing} {files : List String}
      (leads : lookAt disk path = .directory listing) (proper : listing.Proper)
      (units : listing.UnitsBelow path files) (nonempty : files ≠ []) : NamesUnits path files
  /-- What a disk lists with names that repeat or are none is walked through as it is. -/
  | unruly {listing : Listing} {files : List String}
      (leads : lookAt disk path = .directory listing) (improper : ¬ listing.Proper)
      (walked : listing.unitPaths path = .ok files) (nonempty : files ≠ []) : NamesUnits path files

/-- Settings make a configuration, and paths name files: each its own, one path after another. -/
structure Resolves (settings : SettingsSource) (paths : List String) (config : Config)
    (files : List String) : Prop where
  settled : configAt disk settings = .ok config
  named : ∃ groups, List.Forall₂ (NamesUnits disk) paths groups ∧ files = groups.flatten

variable {disk}

/-! ### Paths -/

theorem unitPaths_lookAt_eq_ok_iff {path : String} {files : List String} :
    (lookAt disk path).unitPaths path = .ok files ↔ NamesUnits disk path files := by
  constructor
  · intro h
    cases leads : lookAt disk path with
    | missing => rw [leads] at h; cases h
    | special => rw [leads] at h; cases h
    | file =>
      rw [leads, Look.unitPaths] at h
      split at h
      next unit =>
        obtain ⟨⟩ := h
        exact .file leads (isUnitPath_iff.mp unit)
      · cases h
    | directory listing =>
      rw [leads, Look.unitPaths] at h
      cases walked : listing.unitPaths path with
      | error e => rw [walked] at h; cases h
      | ok found =>
        simp only [walked, bind, Except.bind, List.isEmpty_iff] at h
        split at h
        · cases h
        next nonempty =>
          obtain ⟨⟩ := h
          by_cases proper : listing.Proper
          · exact .directory leads proper (proper.unitPaths_eq_ok_iff.mp walked) nonempty
          · exact .unruly leads proper walked nonempty
  · rintro (⟨leads, extension⟩ | ⟨leads, proper, units, nonempty⟩ | ⟨leads, -, walked, nonempty⟩)
    · rw [leads, Look.unitPaths, if_pos (isUnitPath_iff.mpr extension)]
    · have walked := proper.unitPaths_eq_ok_iff.mpr units
      simp [leads, Look.unitPaths, walked, bind, Except.bind, nonempty]
    · simp [leads, Look.unitPaths, walked, bind, Except.bind, nonempty]

theorem run_unitPaths_cons (path : String) (rest : List String) :
    (unitPaths (path :: rest) : ReaderM ρ (Except Report (List String))).run disk =
      match (lookAt disk path).unitPaths path with
      | .error e => .error e
      | .ok here =>
        ((unitPaths rest : ReaderM ρ (Except Report (List String))).run disk).map (here ++ ·) := by
  have answer : (MonadDisk.look path : ReaderM ρ Look).run disk = lookAt disk path := rfl
  rw [unitPaths, run_bind, answer]
  cases (lookAt disk path).unitPaths path <;> rfl

theorem run_unitPaths_eq_ok_iff {paths files : List String} :
    (unitPaths paths : ReaderM ρ (Except Report (List String))).run disk = .ok files ↔
      ∃ groups, List.Forall₂ (NamesUnits disk) paths groups ∧ files = groups.flatten := by
  induction paths generalizing files with
  | nil =>
    constructor
    · rintro ⟨⟩
      exact ⟨[], .nil, rfl⟩
    · rintro ⟨_, ⟨⟩, rfl⟩
      rfl
  | cons path rest ih =>
    rw [run_unitPaths_cons]
    constructor
    · intro h
      cases first : (lookAt disk path).unitPaths path with
      | error e => rw [first] at h; cases h
      | ok here =>
        cases behind : (unitPaths rest : ReaderM ρ (Except Report (List String))).run disk with
        | error e => rw [first, behind] at h; cases h
        | ok others =>
          rw [first, behind] at h
          obtain ⟨groups, names, rfl⟩ := ih.mp behind
          obtain ⟨⟩ := h
          exact ⟨here :: groups, .cons (unitPaths_lookAt_eq_ok_iff.mp first) names, rfl⟩
    · rintro ⟨_, _ | ⟨first, names⟩, rfl⟩
      rw [unitPaths_lookAt_eq_ok_iff.mpr first, ih.mpr ⟨_, names, rfl⟩]
      rfl

theorem exists_named_iff {paths : List String} :
    (∃ groups, List.Forall₂ (NamesUnits disk) paths groups) ↔
      ∀ path ∈ paths, ∃ files, NamesUnits disk path files := by
  induction paths with
  | nil => simp
  | cons path rest ih =>
    rw [List.forall_mem_cons, ← ih]
    constructor
    · rintro ⟨_, _ | ⟨first, names⟩⟩
      exact ⟨⟨_, first⟩, _, names⟩
    · rintro ⟨⟨_, first⟩, _, names⟩
      exact ⟨_, .cons first names⟩

/-- Settings and paths resolve in one way only. -/
theorem Resolves.unique {settings : SettingsSource} {paths files files' : List String}
    {config config' : Config} (h : Resolves disk settings paths config files)
    (h' : Resolves disk settings paths config' files') : config' = config ∧ files' = files := by
  have configs : Except.ok config' = .ok config := h'.settled.symm.trans h.settled
  have lists : Except.ok files' = .ok files :=
    (run_unitPaths_eq_ok_iff.mpr h'.named).symm.trans (run_unitPaths_eq_ok_iff.mpr h.named)
  exact ⟨Except.ok.inj configs, Except.ok.inj lists⟩

/-- Nothing resolves iff the settings make no configuration or some path names no units. -/
theorem not_resolves_iff {settings : SettingsSource} {paths : List String} :
    (∀ config files, ¬ Resolves disk settings paths config files) ↔
      (∀ config, configAt disk settings ≠ .ok config) ∨
        ∃ path ∈ paths, ∀ files, ¬ NamesUnits disk path files := by
  constructor
  · intro unresolved
    by_contra! ⟨⟨config, settled⟩, names⟩
    obtain ⟨groups, named⟩ := exists_named_iff.mpr names
    exact unresolved config _ ⟨settled, groups, named, rfl⟩
  · rintro (unsettled | ⟨path, mem, unnamed⟩) config files ⟨settled, groups, named, -⟩
    · exact unsettled config settled
    · obtain ⟨here, names⟩ := exists_named_iff.mp ⟨groups, named⟩ path mem
      exact unnamed here names

/-! ### The run of the command -/

section Command

variable {arguments paths : List String} {verbosity : Nat} {format : Format}
  {settings : SettingsSource}

theorem run_runProgram_lint
    (accepted : Invocation.ofArguments arguments =
      .ok (.run verbosity (.lint paths format settings)))
    (disk : ρ) :
    (runProgram arguments : ReaderM ρ Run).run disk = Run.shownAt verbosity
      ((withConfig settings (lintPaths paths format) : ReaderM ρ Run).run disk) := by
  rw [runProgram, accepted]
  rfl

/-- A command that resolves goes through the units. -/
theorem run_lint_of_resolves
    (accepted : Invocation.ofArguments arguments =
      .ok (.run verbosity (.lint paths format settings)))
    {config : Config} {files : List String} (resolves : Resolves disk settings paths config files) :
    let run := (runProgram arguments : ReaderM ρ Run).run disk
    let units := (lintUnits format config files.length 0 files : ReaderM ρ Run).run disk
    run.stdout = units.stdout ∧ run.ending = units.ending := by
  have settled : (settings.resolve : ReaderM ρ (Except Report Config)).run disk = .ok config :=
    resolves.settled
  have linted : (lintPaths paths format config : ReaderM ρ Run).run disk =
      (lintUnits format config files.length 0 files : ReaderM ρ Run).run disk := by
    rw [lintPaths, run_bind, run_unitPaths_eq_ok_iff.mpr resolves.named]
  have whole : (withConfig settings (lintPaths paths format) : ReaderM ρ Run).run disk =
      ((lintUnits format config files.length 0 files : ReaderM ρ Run).run disk).after
        ([config.event].map .log) := by
    rw [withConfig, run_bind, settled, ← linted]
    rfl
  rw [run_runProgram_lint accepted, whole]
  exact ⟨by rw [Run.stdout_shownAt, Run.stdout_after_log], rfl⟩

/-- A command that does not resolve prints nothing and fails. -/
theorem run_lint_of_not_resolves
    (accepted : Invocation.ofArguments arguments =
      .ok (.run verbosity (.lint paths format settings)))
    (unresolved : ∀ config files, ¬ Resolves disk settings paths config files) :
    let run := (runProgram arguments : ReaderM ρ Run).run disk
    run.stdout = "" ∧ ∃ report, run.ending = .failed report := by
  dsimp only
  rw [run_runProgram_lint accepted, Run.stdout_shownAt, Run.ending_shownAt, withConfig, run_bind]
  cases settled : (settings.resolve : ReaderM ρ (Except Report Config)).run disk with
  | error report => exact ⟨rfl, report, rfl⟩
  | ok config =>
    cases named : (unitPaths paths : ReaderM ρ (Except Report (List String))).run disk with
    | ok files => exact absurd ⟨settled, run_unitPaths_eq_ok_iff.mp named⟩ (unresolved config files)
    | error report =>
      have linted : (lintPaths paths format config : ReaderM ρ Run).run disk = .fail report := by
        rw [lintPaths, run_bind, named]
        rfl
      dsimp only
      rw [run_bind, linted]
      exact ⟨Run.stdout_after_log [config.event] (.fail report), report, rfl⟩

end Command

/-! ### Files of a tree -/

/-- A relative path through the given names, all of them such that the system takes them. -/
structure Path.Through (path : String) (names : List String) : Prop where
  parts : split path = names
  isName : ∀ name ∈ names, IsName name ∧ isLongName name = false
  relative : isAbsolute path = false
  short : isLongPath path = false
  no_nul : '\x00' ∉ path.toList

instance (path : String) (names : List String) : Decidable (Path.Through path names) :=
  decidable_of_iff (Path.split path = names ∧
      (∀ name ∈ names, Path.IsName name ∧ Path.isLongName name = false) ∧
      Path.isAbsolute path = false ∧ Path.isLongPath path = false ∧ '\x00' ∉ path.toList)
    ⟨fun ⟨parts, isName, relative, short, nul⟩ => ⟨parts, isName, relative, short, nul⟩,
      fun h => ⟨h.parts, h.isName, h.relative, h.short, h.no_nul⟩⟩

namespace FileTree

variable {tree found : FileTree} {names : List String}

/-- Names lead down the tree to what stands at their end, if that is no link. -/
theorem walk_of_get? (isName : ∀ name ∈ names, Path.IsName name ∧ Path.isLongName name = false)
    (found_eq : tree.get? names = some found) (no_link : ∀ target, found ≠ .link target)
    (links : Nat) (above : List FileTree) : walk links (tree :: above) names = .ok found := by
  induction names generalizing tree above with
  | nil =>
    obtain ⟨⟩ := found_eq
    rw [walk]
  | cons name rest ih =>
    obtain ⟨⟨here, short⟩, isName⟩ := List.forall_mem_cons.mp isName
    obtain ⟨child, entry, below⟩ := Option.bind_eq_some_iff.mp found_eq
    have step := ih isName below
    simp only [walk, here.nonempty, here.not_here, here.not_above, short, List.head?_cons,
      Option.bind_some, entry]
    cases child with
    | directory entries => exact step _
    | file content =>
      cases rest with
      | nil => cases below; rfl
      | cons name rest => cases below
    | link target =>
      cases rest with
      | nil => cases below; exact absurd rfl (no_link target)
      | cons name rest => cases below

/-- A path through names leads to what stands at their end. -/
theorem find_of_get? {path : String} (names : List String) (through : Path.Through path names)
    (found_eq : tree.get? names = some found) (no_link : ∀ target, found ≠ .link target) :
    tree.find path = .ok found := by
  have nonempty : path ≠ "" := by
    rintro rfl
    have empty : "" ∈ names := through.parts ▸ List.mem_singleton_self _
    exact (through.isName "" empty).1.nonempty rfl
  simp [find, through.no_nul, through.short, nonempty, through.relative, through.parts,
    walk_of_get? through.isName found_eq no_link]

end FileTree

section Trees

variable {tree : FileTree} {path text : String}

theorem lookAt_of_find (found : tree.find path = .ok (.file text.toUTF8)) :
    lookAt tree path = .file := by
  change tree.look path = .file
  rw [FileTree.look, found]

theorem readAt_of_find (found : tree.find path = .ok (.file text.toUTF8)) :
    readAt tree path = .ok text := by
  have decoded : String.fromUTF8? text.toUTF8 = some text := by
    rw [String.fromUTF8?, dif_pos (by simpa using text.isValidUTF8)]
    rfl
  change tree.read path = .ok text
  rw [FileTree.read, found]
  simp only [bind, Except.bind, decoded]

theorem unitAt?_of_find (found : tree.find path = .ok (.file text.toUTF8)) {u : ProgramUnit}
    (decoded : Wire.ofText text = .ok u) : unitAt? tree path = some u := by
  rw [unitAt?, readAt_of_find found]
  exact congrArg Except.toOption decoded

end Trees

end PaginationLint
