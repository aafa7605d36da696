import PaginationLint.Disk.Basic
import PaginationLint.Disk.Path

/-!
A file tree in memory, which answers the questions of `MonadDisk`.

Relative paths are taken from the top directory of the tree, and links are followed from the
directory that holds them. The directories around the tree, the root among them, are there, but no
names in them are known: `..` and `/` lead to a directory, and any name outside is missing.
-/

namespace PaginationLint

/-- A file, a directory or a symbolic link. -/
inductive FileTree where
  | file (content : ByteArray)
  | directory (entries : List (String × FileTree))
  | link (target : String)
  deriving Inhabited

namespace FileTree

/-- The entries of a directory. -/
def entries : FileTree → List (String × FileTree)
  | .directory entries => entries
  | _ => []

/-- Replaces or adds an entry. -/
def setEntry (name : String) (tree : FileTree) :
    List (String × FileTree) → List (String × FileTree)
  | [] => [(name, tree)]
  | (n, t) :: rest => if n = name then (n, tree) :: rest else (n, t) :: setEntry name tree rest

/-- Greatest number of links followed on the way to a file. -/
def maxLinks : Nat := 40

/-- Follows the parts of a path from the innermost of the given directories, the others being
those around it. Without directories the way goes on outside the tree, where `..` leads no further
and no name is known. -/
def walk (links : Nat) (directories : List FileTree) (parts : List String) :
    Except ReadError FileTree :=
  match parts, directories with
  | [], [] => .ok (.directory [])
  | [], here :: _ => .ok here
  | part :: rest, directories =>
    if part = "" ∨ part = "." then walk links directories rest
    else if part = ".." then walk links directories.tail rest
    else if Path.isLongName part then .error .nameTooLong
    else
      match directories.head?.bind (·.entries.lookup part) with
      | none => .error .missing
      | some (.file content) =>
        if rest.isEmpty then .ok (.file content) else .error .notDirectory
      | some (.directory entries) => walk links (.directory entries :: directories) rest
      | some (.link target) =>
        if links = 0 then .error .tooManyLinks
        else
          let start := if Path.isAbsolute target then [] else directories
          walk (links - 1) start (Path.split target ++ rest)
termination_by (links, parts.length)

/-- What a path leads to. -/
def find (tree : FileTree) (path : String) : Except ReadError FileTree :=
  if path.toList.contains '\x00' then .error .badName
  else if Path.isLongPath path then .error .nameTooLong
  else if path = "" then .error .missing
  else walk maxLinks (if Path.isAbsolute path then [] else [tree]) (Path.split path)

/-! ### Building a tree -/

/-- The tree at the end of some names, without following links. -/
def get? : List String → FileTree → Option FileTree
  | [], tree => some tree
  | name :: names, parent => (parent.entries.lookup name).bind (get? names)

/-- Sets what stands at the end of some names, with the directories on the way to it. -/
def set (item : FileTree) : List String → FileTree → FileTree
  | [], _ => item
  | name :: names, parent =>
    let child := (parent.entries.lookup name).getD (.directory [])
    .directory (setEntry name (set item names child) parent.entries)

/-- Makes the directories of a path that are not there yet, starting from the directory at the end
of the names `here`. Gives the tree with them and the names of the directory the path ends in, or
nothing if the path leaves the tree or runs into a file. -/
def makePath (links : Nat) (tree : FileTree) (here : List String) (parts : List String) :
    Option (FileTree × List String) :=
  match parts with
  | [] => some (tree, here)
  | part :: rest =>
    if part = "" ∨ part = "." then makePath links tree here rest
    else if part = ".." then
      if here.isEmpty then none else makePath links tree here.dropLast rest
    else
      match get? (here ++ [part]) tree with
      | none => makePath links (set (.directory []) (here ++ [part]) tree) (here ++ [part]) rest
      | some (.file _) => none
      | some (.directory _) => makePath links tree (here ++ [part]) rest
      | some (.link target) =>
        if links = 0 then none
        else if Path.isAbsolute target then none
        else makePath (links - 1) tree here (Path.split target ++ rest)
termination_by (links, parts.length)

/-- The tree with a directory at a path; unchanged if there can be none. -/
def makeDirectory (tree : FileTree) (path : String) : FileTree :=
  ((makePath maxLinks tree [] (Path.split path)).map (·.1)).getD tree

/-- The tree with a file or a link at a path, in a directory made as needed; unchanged if there can
be no such directory. -/
def put (tree : FileTree) (path : String) (item : FileTree) : FileTree :=
  let parts := Path.split path
  match makePath maxLinks tree [] parts.dropLast, parts.getLast? with
  | some (tree, here), some name => set item (here ++ [name]) tree
  | _, _ => tree

/-! ### Answers -/

mutual

/-- The names in the tree at a path. -/
def listing (path : String) : FileTree → Listing
  | .file _ => .file
  | .directory entries =>
    if Path.isLongPath path then .unreadable .nameTooLong else .directory (listings path entries)
  | .link _ => .link

/-- The names in the entries of the directory at a path. -/
def listings (path : String) : List (String × FileTree) → List (String × Listing)
  | [] => []
  | (name, tree) :: rest => (name, listing (Path.join path name) tree) :: listings path rest

end

/-- What a path leads to, seen from outside. -/
def look (tree : FileTree) (path : String) : Look :=
  match tree.find path with
  | .ok (.file _) => .file
  | .ok (.directory entries) => .directory (listing path (.directory entries))
  | _ => .missing

/-- The text of the file at a path. -/
def read (tree : FileTree) (path : String) : Except ReadError String := do
  match ← tree.find path with
  | .file content =>
    match String.fromUTF8? content with
    | some text => .ok text
    | none => .error .notText
  | _ => .error .isDirectory

end FileTree

instance : MonadDisk (ReaderM FileTree) where
  look path := do return (← read).look path
  read path := do return (← read).read path

end PaginationLint
