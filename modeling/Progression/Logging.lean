import Progression.Settings.Basic
import Progression.Text.Letter

namespace Progression.Logging

open Text

/-- The layouts of log lines. -/
def formats : List String := ["json", "console"]

/-- The levels by their names. -/
def levels : List (String × Nat) := [
  ("CRITICAL", 50), ("FATAL", 50), ("ERROR", 40), ("WARN", 30), ("WARNING", 30), ("INFO", 20),
  ("DEBUG", 10), ("NOTSET", 0)]

/-- The least level of the loggers of database drivers. -/
def warningLevel : Nat := 30

/-- The loggers of database drivers. -/
inductive DriverLogger where
  /-- What all databases go through. -/
  | engine
  /-- The driver of databases in files. -/
  | embedded
  /-- The driver of databases on servers. -/
  | served
  deriving DecidableEq, Repr

def DriverLogger.all : List DriverLogger := [engine, embedded, served]

inductive Fault where
  | unknownFormat (given : String)
  | unknownLevel (given : String)

def Fault.message : Fault → String
  | unknownFormat given =>
    "Unknown log_format '" ++ given ++ "'. Expected one of: " ++ ", ".intercalate formats
  | unknownLevel given => "Unknown log_level '" ++ given ++ "'"

/-- The level that settings ask for, after the layout is known to exist. -/
def level? (format level : String) : Except Fault Nat :=
  if !formats.contains (.ofList (smallLetters format.toList)) then .error (.unknownFormat format)
  else (levels.lookup (.ofList (capitals level.toList))).elim (.error (.unknownLevel level)) .ok

/-- The levels of the loggers of database drivers, if logging can be set up. -/
def setUp (format level : String) : Except Fault (List (DriverLogger × Nat)) := do
  let level ← level? format level
  return DriverLogger.all.map fun logger => (logger, max level warningLevel)

end Progression.Logging
