/-!
What a run asks of the disk.

A run looks at paths and reads texts; it writes nothing. `MonadDisk` names the two questions, so
that the same run works on a file tree in memory and on a real disk.
-/

namespace PaginationLint

/-- Why a file cannot be read. -/
inductive ReadError where
  | missing
  | isDirectory
  | notDirectory
  | tooManyLinks
  /-- The path, or a name on it, is longer than the system takes. -/
  | nameTooLong
  /-- The path holds a character that no name can hold. -/
  | badName
  | notText
  /-- Any other reason, in the words of the system. -/
  | other (reason : String)
  deriving DecidableEq, Repr, Inhabited

/-- The reason, in the words of the system. -/
def ReadError.message : ReadError → String
  | .missing => "No such file or directory (os error 2)"
  | .isDirectory => "Is a directory (os error 21)"
  | .notDirectory => "Not a directory (os error 20)"
  | .tooManyLinks => "Too many levels of symbolic links (os error 40)"
  | .nameTooLong => "File name too long (os error 36)"
  | .badName => "file name contained an unexpected NUL byte"
  | .notText => "stream did not contain valid UTF-8"
  | .other reason => reason

/-- The names below a directory, in the order in which the disk lists them. -/
inductive Listing where
  | file
  | directory (entries : List (String × Listing))
  /-- A symbolic link, whatever it points to. -/
  | link
  /-- Anything else that has a name: a pipe, a socket, a device. -/
  | special
  /-- A directory that cannot be listed. -/
  | unreadable (error : ReadError)
  deriving Repr, Inhabited

/-- What a path leads to, links followed. -/
inductive Look where
  | missing
  | file
  | directory (listing : Listing)
  /-- Anything else that has a name. -/
  | special
  deriving Repr, Inhabited

/-- A place where files can be looked up and read. -/
class MonadDisk (m : Type → Type) where
  /-- What a path leads to. -/
  look : String → m Look
  /-- The text of a file. -/
  read : String → m (Except ReadError String)

end PaginationLint
