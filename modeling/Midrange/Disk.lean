/-!
# Files

A disk is a tree of directories and files, together with the working directory of the command that
uses it. It is kept flat: each entry stands under its location, the names that lead to it from the
root.

* `Disk.read path` reads a text file.
* `Disk.write path text` replaces a file or creates one; nothing else changes.

A path with a leading slash starts at the root, any other at the working directory, and `..` goes to
the directory above. Links, permissions, limits on the length of a name and null characters in a
path are not modelled: a path that leads to a file can be read, and a file can be written wherever
its directory is there.
-/

namespace Midrange

/-- The names that lead from the root to an entry. -/
abbrev Location := List (List Char)

/-- What stands at a location. -/
inductive Entry where
  /-- A file with its bytes. -/
  | file (content : ByteArray)
  /-- A directory. -/
  | directory

/-- Files and directories, seen from a working directory. -/
structure Disk where
  /-- The entries by location. -/
  entries : List (Location × Entry) := []
  /-- Where a path without a leading slash starts. -/
  workingDirectory : Location := []

namespace Disk

/-- Why a file could not be read or written. -/
inductive Error where
  /-- There is no such file or directory. -/
  | notFound
  /-- A directory stands where a file is needed. -/
  | isDirectory
  /-- A file stands where a directory is needed. -/
  | notDirectory
  /-- The bytes are no UTF-8 text. -/
  | notText
  deriving DecidableEq, Repr

/-- The text shown for an error. -/
def Error.message : Error → String
  | .notFound => "No such file or directory (os error 2)"
  | .isDirectory => "Is a directory (os error 21)"
  | .notDirectory => "Not a directory (os error 20)"
  | .notText => "stream did not contain valid UTF-8"

/-! ## Locations -/

/-- What stands at a location. The root, the working directory and what lies between them are
directories in any case. -/
def entryAt (disk : Disk) (location : Location) : Option Entry :=
  if location.isPrefixOf disk.workingDirectory then some .directory
  else disk.entries.lookup location

/-- The location that a name leads to from a directory. The root is above itself. -/
def child (location : Location) (name : List Char) : Location :=
  if name = ['.'] then location
  else if name = ['.', '.'] then location.dropLast
  else location ++ [name]

/-- Goes on from a location by a name. What is left has to be a directory. -/
def enter (disk : Disk) (location : Location) (name : List Char) : Except Error Location :=
  match disk.entryAt location with
  | none => .error .notFound
  | some (.file _) => .error .notDirectory
  | some .directory => .ok (child location name)

/-- Follows names from a location. -/
def follow (disk : Disk) (start : Location) (names : List (List Char)) : Except Error Location :=
  names.foldlM disk.enter start

/-! ## Paths -/

/-- A path taken apart. -/
structure Path where
  /-- Whether a slash stands before the first name. -/
  rooted : Bool
  /-- The names in it. -/
  names : List (List Char)
  /-- Whether a slash follows the last name. -/
  slashed : Bool
  deriving DecidableEq, Repr

/-- Takes a path apart. -/
def Path.parse (path : String) : Path where
  rooted := path.toList.head? = some '/'
  names := (path.toList.splitOn '/').filter fun name => !name.isEmpty
  slashed := path.toList.getLast? = some '/'

/-- Where a path starts. The empty path leads nowhere. -/
def start (disk : Disk) (path : Path) : Except Error Location :=
  if path.rooted then .ok []
  else if path.names.isEmpty then .error .notFound
  else .ok disk.workingDirectory

/-! ## Reading and writing -/

/-- The text of the file at a path. -/
def read (disk : Disk) (path : String) : Except Error String := do
  let parsed := Path.parse path
  let location ← disk.follow (← disk.start parsed) parsed.names
  match disk.entryAt location with
  | none => throw .notFound
  | some .directory => throw .isDirectory
  | some (.file content) =>
    if parsed.slashed then throw .notDirectory
    else
      match String.fromUTF8? content with
      | some text => return text
      | none => throw .notText

/-- The location of the file that a write to a path replaces or creates. -/
def target (disk : Disk) (path : String) : Except Error Location := do
  let parsed := Path.parse path
  let start ← disk.start parsed
  match parsed.names.getLast? with
  | none => throw .isDirectory
  | some name =>
    let parent ← disk.follow start parsed.names.dropLast
    let location ← disk.enter parent name
    if parsed.slashed ∨ name = ['.'] ∨ name = ['.', '.'] then throw .isDirectory
    else
      match disk.entryAt location with
      | some .directory => throw .isDirectory
      | _ => return location

/-- The disk with an entry put at a location. -/
def put (disk : Disk) (location : Location) (entry : Entry) : Disk :=
  { disk with entries := (location, entry) :: disk.entries.filter fun e => e.1 != location }

/-- The disk after the file at a path was written. -/
def write (disk : Disk) (path : String) (text : String) : Except Error Disk := do
  return disk.put (← disk.target path) (.file text.toUTF8)

end Disk

end Midrange
