import Progression.Directory

namespace Progression

open Text

structure DatabaseAddress where
  backend : String
  /-- The driver, if the address names one. -/
  driver : Option String
  database : Option String
  deriving DecidableEq, Repr

/-- The backends, each with the driver that it can be used by. -/
def drivers : List (String × String) := [("sqlite", "aiosqlite"), ("postgresql", "asyncpg")]

/-- A text before and after the first `://`, if there is one. -/
def cutScheme? : List Char → Option (List Char × List Char)
  | ':' :: '/' :: '/' :: rest => some ([], rest)
  | c :: rest => (cutScheme? rest).map fun (before, after) => (c :: before, after)
  | [] => none

/-- The address that a text writes. -/
def DatabaseAddress.ofText? (text : String) : Option DatabaseAddress := do
  let (scheme, rest) ← cutScheme? text.toList
  guard (!scheme.isEmpty && scheme.all fun c => c.isAlphanum || c = '_' || c = '+')
  let address := rest.takeWhile (· ≠ '?')
  let database := match cutAt? '/' address with
    | some (_, []) => none
    | some (_, name) => some (String.ofList name)
    | none => none
  let (backend, driver) := match cutAt? '+' scheme with
    | some (backend, driver) => (String.ofList backend, some (String.ofList driver))
    | none => (String.ofList scheme, none)
  return ⟨backend, driver, database⟩

/-- The driver of an address, if its backend can be used by it. -/
def DatabaseAddress.driver? (address : DatabaseAddress) : Option String :=
  address.driver.filter fun driver => drivers.lookup address.backend = some driver

/-- Whether the database is in a file or in memory. -/
def DatabaseAddress.embedded (address : DatabaseAddress) : Bool := address.backend = "sqlite"

/-- The numbers of connections that a pool keeps, and that it may open besides. -/
structure Pool where
  size : Int := 10
  overflow : Int := 10
  deriving DecidableEq, Repr

/-- The pool of a database, unless it is embedded. -/
def DatabaseAddress.pool? (address : DatabaseAddress) (pool : Pool) : Option Pool :=
  if address.embedded then none else some pool

/-- Make the folder of a database file. -/
def DatabaseAddress.prepare? (address : DatabaseAddress) (directory : Directory) : Option Directory :=
  match address.embedded, address.database with
  | true, some name =>
    if name = ":memory:" then some directory
    else
      match directory.makeWay (.ofText name) with
      | (made, true) => some made
      | _ => none
  | _, _ => some directory

/-- The files and folders below a directory by their paths from it, in the order of these. -/
def Directory.entries (directory : Directory) : List String :=
  let below := (directory.folders ++ directory.files.keys).filterMap fun place =>
    match place with
    | name :: first :: rest => if name = directory.name then some ("/".intercalate (first :: rest)) else none
    | _ => none
  below.mergeSort fun a b => a ≤ b

end Progression
