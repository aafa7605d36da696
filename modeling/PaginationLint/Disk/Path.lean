/-!
Paths: their components, names and extensions.
-/

namespace PaginationLint.Path

/-- The parts of a text between its slashes. -/
def segments : List Char → List (List Char)
  | [] => [[]]
  | c :: cs =>
    if c = '/' then [] :: segments cs
    else
      match segments cs with
      | s :: ss => (c :: s) :: ss
      | [] => [[c]]

/-- The parts of a path between its slashes. -/
def split (path : String) : List String := (segments path.toList).map String.ofList

/-- The names on the way that a path describes. Empty parts and single dots lead nowhere. -/
def names (path : String) : List String :=
  (split path).filter fun part => part != "" && part != "."

/-- Greatest number of bytes of a name. -/
def maxNameBytes : Nat := 255

/-- Greatest number of bytes of a path. -/
def maxPathBytes : Nat := 4095

/-- Is a name longer than the system takes? -/
def isLongName (name : String) : Bool := maxNameBytes < name.utf8ByteSize

/-- Is a path longer than the system takes? -/
def isLongPath (path : String) : Bool := maxPathBytes < path.utf8ByteSize

/-- Is a path counted from the root? -/
def isAbsolute (path : String) : Bool := path.toList.head? == some '/'

/-- The name that a path ends in. A path that ends in a double dot has none. -/
def name? (path : String) : Option String := (names path).getLast?.filter (· != "..")

/-- What stands behind the last dot of a name, unless that dot comes first. -/
def extensionOf? (name : List Char) : Option (List Char) :=
  let reversed := name.reverse
  let stem := (reversed.dropWhile (· != '.')).drop 1
  if stem.isEmpty then none else some (reversed.takeWhile (· != '.')).reverse

/-- The extension of a path. -/
def extension? (path : String) : Option String := do
  let name ← name? path
  let extension ← extensionOf? name.toList
  return String.ofList extension

/-- The order of paths by their names: name by name, each name by its characters. -/
def precedes : List String → List String → Bool
  | [], _ => true
  | _ :: _, [] => false
  | a :: as, b :: bs => a < b || (a = b && precedes as bs)

/-- The path of a name in a directory. -/
def join (directory name : String) : String :=
  if directory.toList.getLast? == some '/' then directory ++ name else directory ++ "/" ++ name

/-- The path of a file below a directory. -/
def below (directory : String) (names : List String) : String := names.foldl join directory

end PaginationLint.Path
