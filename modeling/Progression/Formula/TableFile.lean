import Progression.Directory
import Progression.Formula.TableText

/-!
Level tables in files. A table that is asked for and missing is written with default floors first, unless
the caller wants none made.
-/

namespace Progression

inductive TableFileFault where
  /-- The file cannot be read or written. -/
  | unreadable (path : String)
  | missing (path : String)
  /-- The path holds a null character. -/
  | nullCharacter
  | text (fault : TableFault)

def TableFileFault.kind : TableFileFault → FaultKind
  | nullCharacter => .value
  | text (.floors fault) => fault.kind
  | _ => .configuration

def TableFileFault.message : TableFileFault → String
  | unreadable path => "Failed to read level table " ++ path
  | missing path => "Level table " ++ path ++ " does not exist"
  | nullCharacter => "The path holds a null character"
  | text fault => fault.message

/-- The text of the default table. -/
def defaultTableText : String :=
  "# level,xp (XP floor required for that level)\n# Level 1 must be 0 XP\nlevel,xp\n1,0\n2,100\n3,250\n4,450\n5,700\n6,1000\n"

/-- The name of the table file if none is given. -/
def defaultTableName : String := "levels.csv"

namespace LevelTable

/-- Read the table in a file that should exist. -/
def readFile (directory : Directory) (file : String) : Except TableFileFault LevelTable :=
  let path := Path.ofText file
  match directory.read? path with
  | none => .error (.unreadable (directory.display path))
  | some text => (LevelTable.read text.toList file).mapError .text

/-- Write the default table to a file that does not exist; gives also the directory afterwards, which keeps folders
that were made on the way even if there is a fault. -/
def writeDefault (directory : Directory) (file : String) : Except TableFileFault Unit × Directory :=
  let path := Path.ofText file
  if holdsNull path.names.dropLast then (.error .nullCharacter, directory)
  else
    match directory.makeWay path with
    | (made, false) => (.error (.unreadable (directory.display path)), made)
    | (made, true) =>
      if holdsNull path.names then (.error .nullCharacter, made)
      else
        match made.write? path defaultTableText with
        | none => (.error (.unreadable (directory.display path)), made)
        | some written => (.ok (), written)

/-- Load the table in a file that is missing, which may be written first; gives also the directory afterwards. -/
def loadMissing (directory : Directory) (file : String) (createDefault : Bool) :
    Except TableFileFault LevelTable × Directory :=
  if createDefault then
    match writeDefault directory file with
    | (.error fault, left) => (.error fault, left)
    | (.ok _, written) => (readFile written file, written)
  else (.error (.missing (directory.display (.ofText file))), directory)

/-- Load the table in a file; gives also the directory afterwards. -/
def load (directory : Directory) (file : String) (createDefault : Bool) :
    Except TableFileFault LevelTable × Directory :=
  let path := Path.ofText file
  if holdsNull path.names then loadMissing directory file createDefault
  else
    match directory.followPath path with
    | .refused => (.error (.unreadable (directory.display path)), directory)
    | .nowhere => loadMissing directory file createDefault
    | .place place =>
      if directory.occupied place then (readFile directory file, directory)
      else loadMissing directory file createDefault

end LevelTable

end Progression
