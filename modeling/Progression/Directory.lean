import Progression.Entries
import Progression.Text.Lines

/-!
The directory that holds the level tables, as far as reading and writing texts in it can tell. Paths are
followed folder by folder, so a way up leads out of a folder that exists, and nowhere else.
-/

namespace Progression

open Text

/-- Where a file or folder is: the names on the way down from the root. -/
abbrev Place := List String

/-- A path as it is written: whether it starts at the root, and its names without empty ones and dots. -/
structure Path where
  absolute : Bool
  names : List String
  deriving DecidableEq, Repr

def Path.ofText (text : String) : Path where
  absolute := text.toList.head? = some '/'
  names := ((splitAt '/' text.toList).map String.ofList).filter fun name => name ≠ "" && name ≠ "."

/-- Whether some name holds a null character; no file has such a name. -/
def holdsNull (names : List String) : Bool := names.any fun name => name.toList.contains '\x00'

/-- Files and folders around one directory. -/
structure Directory where
  /-- What messages call the directory. -/
  name : String
  files : Entries Place String
  /-- The folders besides the root. -/
  folders : List Place

/-- The longest name in bytes. -/
def maxNameBytes : Nat := 255

/-- Where following a path leads. -/
inductive Following where
  | place (place : Place)
  /-- Some name on the way is no folder. -/
  | nowhere
  /-- Some name on the way is too long. -/
  | refused
  deriving DecidableEq, Repr

namespace Directory

/-- A directory without files. -/
def empty (name : String) : Directory := ⟨name, ∅, [[name]]⟩

/-- The directory itself. -/
def home (directory : Directory) : Place := [directory.name]

def isFolder (directory : Directory) (place : Place) : Bool :=
  place.isEmpty || directory.folders.contains place

/-- Where a path starts. -/
def start (directory : Directory) (path : Path) : Place := if path.absolute then [] else directory.home

/-- A path as messages show it. -/
def display (directory : Directory) (path : Path) : String :=
  if path.absolute then "/" ++ "/".intercalate path.names
  else "/".intercalate (directory.name :: path.names)

/-- Follow names from a place. The last name need not exist. -/
def follow (directory : Directory) (place : Place) : List String → Following
  | [] => .place place
  | name :: rest =>
    if !directory.isFolder place then .nowhere
    else if maxNameBytes < name.utf8ByteSize then .refused
    else follow directory (if name = ".." then place.dropLast else place ++ [name]) rest

def followPath (directory : Directory) (path : Path) : Following :=
  directory.follow (directory.start path) path.names

/-- Whether something is at a place. -/
def occupied (directory : Directory) (place : Place) : Bool :=
  directory.isFolder place || directory.files.contains place

/-- Make a folder at a place, unless there is one; none can be made where a file is. Tells whether there is one
afterwards. -/
def makeFolder (directory : Directory) (place : Place) : Directory × Bool :=
  if directory.isFolder place then (directory, true)
  else if directory.files.contains place then (directory, false)
  else ({ directory with folders := directory.folders ++ [place] }, true)

/-- Make the folder that names lead to, given from the last to the first, and those on the way, as far as that goes.
Tells whether it went to the end. -/
def makeFolders (directory : Directory) (start : Place) : List String → Directory × Bool
  | [] => directory.makeFolder start
  | last :: before =>
    match directory.follow start (last :: before).reverse with
    | .place place => directory.makeFolder place
    | .refused => (directory, false)
    | .nowhere =>
      match makeFolders directory start before with
      | (made, false) => (made, false)
      | (made, true) =>
        match made.follow start (last :: before).reverse with
        | .place place => made.makeFolder place
        | _ => (made, false)

/-- Make the folder that a path's last name is to stand in. -/
def makeWay (directory : Directory) (path : Path) : Directory × Bool :=
  directory.makeFolders (directory.start path) path.names.dropLast.reverse

/-- Write a file, in a folder that exists. -/
def write? (directory : Directory) (path : Path) (text : String) : Option Directory :=
  match directory.followPath path with
  | .place place =>
    if directory.isFolder place then none
    else some { directory with files := directory.files.put place text }
  | _ => none

/-- Write a file and make the folders on the way to it. -/
def create? (directory : Directory) (path : Path) (text : String) : Option Directory :=
  match directory.makeWay path with
  | (made, true) => made.write? path text
  | _ => none

/-- The text of a file, its lines ending in line feeds. -/
def read? (directory : Directory) (path : Path) : Option String :=
  match directory.followPath path with
  | .place place =>
    (directory.files.get? place).map fun text => .ofList (unifyNewlines text.toList)
  | _ => none

/-- Remove a file. -/
def remove (directory : Directory) (path : Path) : Directory :=
  match directory.followPath path with
  | .place place => { directory with files := directory.files.erase place }
  | _ => directory

/-- The files below the directory by their paths from it, in the order of these. -/
def listing (directory : Directory) : List (String × String) :=
  let below := directory.files.pairs.filterMap fun (place, text) =>
    match place with
    | name :: rest => if name = directory.name then some ("/".intercalate rest, text) else none
    | [] => none
  below.mergeSort fun a b => a.1 ≤ b.1

/-- A directory with files, given by their paths. -/
def ofFiles (name : String) (files : List (String × String)) : Directory :=
  files.foldl (fun directory (path, text) =>
    (directory.create? (.ofText path) text).getD directory) (empty name)

end Directory

end Progression
