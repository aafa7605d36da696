import PaginationLint.Command.Program

/-!
The command line, on the disk of the machine.
-/

namespace PaginationLint.Shell

/-- The number under which the system knows a failure of a file; some calls negate it. -/
def systemCode? : IO.Error → Option UInt32
  | .noFileOrDirectory _ code _ | .inappropriateType _ code _ | .invalidArgument _ code _ =>
    some (min code (0 - code))
  | _ => none

/-- The reason that the system gives for a failure. -/
def readError (e : IO.Error) : ReadError :=
  match systemCode? e with
  | some 2 => .missing
  | some 20 => .notDirectory
  | some 21 => .isDirectory
  | some 36 => .nameTooLong
  | some 40 => .tooManyLinks
  | _ => .other (toString e)

/-- What is below a directory. -/
partial def listing (directory : IO.FS.DirEntry) : IO Listing := do
  match ← directory.path.readDir.toBaseIO with
  | .error e => return .unreadable (readError e)
  | .ok places =>
    let mut entries := []
    for place in places do
      match (← place.path.symlinkMetadata).type with
      | .file => entries := (place.fileName, .file) :: entries
      | .dir => entries := (place.fileName, ← listing place) :: entries
      | .symlink => entries := (place.fileName, .link) :: entries
      | .other => entries := (place.fileName, .special) :: entries
    return .directory entries.reverse

/-- What a path leads to. -/
def look (path : String) : IO Look := do
  let place : IO.FS.DirEntry := ⟨path, "."⟩
  match ← place.root.metadata.toBaseIO with
  | .error _ => return .missing
  | .ok found =>
    match found.type with
    | .file => return .file
    | .dir => return .directory (← listing place)
    | _ => return .special

/-- The text of a file. -/
def read (path : String) : IO (Except ReadError String) := do
  if path.toList.contains '\x00' then return .error .badName
  let place : IO.FS.DirEntry := ⟨path, "."⟩
  if ← place.root.isDir then return .error .isDirectory
  match ← (IO.FS.readBinFile path).toBaseIO with
  | .error e => return .error (readError e)
  | .ok bytes =>
    match String.fromUTF8? bytes with
    | some text => return .ok text
    | none => return .error .notText

instance : MonadDisk IO := ⟨look, read⟩

/-- Writes something to its stream. -/
def write : Written → IO Unit
  | .output text => IO.print text
  | .error text => IO.eprint text
  | .log event => IO.eprintln event.render

end PaginationLint.Shell

/-- Runs the program and gives its exit status. -/
def main (arguments : List String) : IO UInt32 := do
  let run ← PaginationLint.runProgram arguments
  run.written.forM PaginationLint.Shell.write
  IO.eprint run.ending.text
  return UInt32.ofNat run.status
