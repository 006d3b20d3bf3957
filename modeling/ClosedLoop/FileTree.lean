/-!
# Files

A tree of files and folders, and what reading a path in it comes to. A path is walked name by
name, from the root if it begins with a slash and else from the folder in which one works: nothing
and `.` stay in a folder, `..` goes to the one above, and the root is above itself. Behind a file
nothing can be named, not even by a slash at the end.
-/

namespace ClosedLoop

/-- Why a file cannot be read. -/
inductive FileError where
  | notFound
  /-- A file stands where a folder is needed. -/
  | notADirectory
  | isADirectory
  /-- A name is longer than 255 bytes, or the path than 4095. -/
  | nameTooLong
  /-- A name holds a NUL. -/
  | nulInName
  /-- The file is not text. -/
  | notText
  /-- Anything else, as the system describes it. -/
  | other (reason : String)
  deriving DecidableEq, Repr

def FileError.message : FileError → String
  | notFound => "No such file or directory (os error 2)"
  | notADirectory => "Not a directory (os error 20)"
  | isADirectory => "Is a directory (os error 21)"
  | nameTooLong => "File name too long (os error 36)"
  | nulInName => "file name contained an unexpected NUL byte"
  | notText => "stream did not contain valid UTF-8"
  | other reason => reason

/-- What is at the end of a path. -/
inductive FileNode where
  | file (bytes : ByteArray)
  | folder

/-- Files and folders, and the folder in which one works. -/
structure FileTree where
  /-- The names that lead from the root to the folder in which one works. -/
  home : List String := []
  /-- Files and folders by the names that lead to them from the root, the latest first. -/
  entries : List (List String × FileNode) := []

namespace FileTree

/-- The names in a path: what stands between slashes. -/
def names (path : String) : List String :=
  path.splitOn "/"

/-- Adds a file or a folder below the one in which one works. -/
def put (tree : FileTree) (path : String) (node : FileNode) : FileTree :=
  let place := tree.home ++ (names path).filter fun name => !(name == "" || name == ".")
  { tree with entries := (place, node) :: tree.entries }

/-- What is at a place; the folders above an entry are there with it. -/
def at? (tree : FileTree) (place : List String) : Option FileNode :=
  match tree.entries.find? (·.1 == place) with
  | some entry => some entry.2
  | none =>
    if place.isPrefixOf tree.home || tree.entries.any fun entry => place.isPrefixOf entry.1 then
      some .folder
    else none

/-- Walks from a place along names. -/
def walk (tree : FileTree) (place : List String) : List String → Except FileError FileNode
  | [] =>
    match tree.at? place with
    | some node => .ok node
    | none => .error .notFound
  | name :: rest =>
    match tree.at? place with
    | some .folder =>
      if name == "" || name == "." then tree.walk place rest
      else if name == ".." then tree.walk place.dropLast rest
      else if 255 < name.utf8ByteSize then .error .nameTooLong
      else tree.walk (place ++ [name]) rest
    | some (.file _) => .error .notADirectory
    | none => .error .notFound

/-- Reads the file at a path. -/
def read (tree : FileTree) (path : String) : Except FileError ByteArray :=
  if path.contains '\x00' then .error .nulInName
  else if 4095 < path.utf8ByteSize then .error .nameTooLong
  else
    match tree.walk (if path.startsWith "/" then [] else tree.home) (names path) with
    | .ok (.file bytes) => .ok bytes
    | .ok .folder => .error .isADirectory
    | .error error => .error error

end FileTree

end ClosedLoop
