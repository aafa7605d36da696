import PaginationLint.Disk.Basic
import PaginationLint.Disk.Path
import PaginationLint.Report.Basic

/-!
The unit files that a path names.

A file with the right extension names itself. A directory names the regular files with that
extension below it, in the order of their paths: part by part, each part by its characters. Links
are left out, and so is whatever else is neither a file nor a directory.
-/

namespace PaginationLint

/-- The extension of unit files. -/
def unitExtension : String := "json"

/-- Is this the path of a unit file? -/
def isUnitPath (path : String) : Bool := Path.extension? path == some unitExtension

namespace Listing

mutual

/-- The unit files at a path, each as the names on the way from there to it. -/
def unitFiles (path : String) : Listing → Except Report (List (List String))
  | .file => .ok (if isUnitPath path then [[]] else [])
  | .directory entries => unitFilesIn path entries
  | .link | .special => .ok []
  | .unreadable e =>
    .error { message := s!"Failed to read directory '{path}'", causes := [e.message] }

/-- The unit files among the entries of the directory at a path. -/
def unitFilesIn (path : String) : List (String × Listing) → Except Report (List (List String))
  | [] => .ok []
  | (name, listing) :: rest => do
    let here ← unitFiles (Path.join path name) listing
    let others ← unitFilesIn path rest
    return here.map (name :: ·) ++ others

end

/-- The paths of the unit files in a directory, in their order. -/
def unitPaths (path : String) (listing : Listing) : Except Report (List String) := do
  let files ← unitFiles path listing
  return (files.mergeSort Path.precedes).map (Path.below path)

end Listing

/-- The unit files that a path names, by what it leads to. -/
def Look.unitPaths (path : String) : Look → Except Report (List String)
  | .missing | .special => .error { message := s!"Path '{path}' does not exist" }
  | .file =>
    if isUnitPath path then .ok [path]
    else .error { message := s!"File '{path}' is not a .json program unit" }
  | .directory listing => do
    let paths ← listing.unitPaths path
    if paths.isEmpty then .error { message := s!"No .json program units found in '{path}'" }
    else .ok paths

/-- The unit files that paths name, or why the first of these that fails names none. -/
def unitPaths {m : Type → Type} [Monad m] [MonadDisk m] :
    List String → m (Except Report (List String))
  | [] => return .ok []
  | path :: rest => do
    match (← MonadDisk.look path).unitPaths path with
    | .error e => return .error e
    | .ok here => return (← unitPaths rest).map (here ++ ·)

end PaginationLint
