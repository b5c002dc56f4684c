import Progression.Formula.Table
import Progression.Number.Numeral
import Progression.Text.Lines

/-!
Level tables as text: one line `level,xp` for each level, in any order, with blank lines, comments after a
number sign, and headings that begin with the word level. The levels count from one without gaps.
-/

namespace Progression

open Number Text

/-- What is wrong with one line. -/
inductive RowFault where
  | columns
  | notIntegers
  | lowLevel (level : Int)
  | negativeXp (xp : Int)
  | duplicate (level : Nat)

inductive TableFault where
  | row (source : String) (line : Nat) (text : String) (fault : RowFault)
  | noRows (source : String)
  | noFirst (source : String)
  /-- Level one needs XP. -/
  | firstFloor (source : String) (xp : Int)
  | gap (source : String) (level : Nat)
  | floors (fault : FormulaFault)

/-- What a fault of a line says, which is shown as it stands. -/
def RowFault.message (text : String) : RowFault → String
  | columns => "expected 'level,xp', got " ++ quoted text
  | notIntegers => "level and xp must be integers, got " ++ quoted text
  | lowLevel level => "level must be >= 1, got " ++ toString level
  | negativeXp xp => "xp must be >= 0, got " ++ toString xp
  | duplicate level => "duplicate level " ++ toString level

def TableFault.message : TableFault → String
  | row source line text fault => source ++ ":" ++ toString line ++ ": " ++ fault.message text
  | noRows source => source ++ " contains no level rows"
  | noFirst source => source ++ " must include level 1"
  | firstFloor source xp => source ++ ": level 1 must require 0 XP, got " ++ toString xp
  | gap source level =>
    source ++ ": missing level " ++ toString level ++ " (levels must be contiguous from 1)"
  | floors fault => fault.message

/-- The floors of levels in the order of their lines. -/
abbrev TableRows := Entries Nat Int

/-- Whether a line without white space around it gives no row. -/
def isRemark (line : List Char) : Bool :=
  line.isEmpty || line.head? = some '#' || "level".toList.isPrefixOf (smallLetters line)

/-- The level and the XP of a line. -/
def readRow (line : List Char) : Except RowFault (Nat × Int) :=
  match splitAt ',' line with
  | [left, right] =>
    match readInt? (strip left), readInt? (strip right) with
    | some level, some xp =>
      if level < 1 then .error (.lowLevel level)
      else if xp < 0 then .error (.negativeXp xp)
      else .ok (level.toNat, xp)
    | _, _ => .error .notIntegers
  | _ => .error .columns

/-- Add a line to the rows before it. -/
def TableRows.add (rows : TableRows) (line : List Char) : Except RowFault TableRows :=
  let body := strip line
  if isRemark body then .ok rows
  else
    match readRow body with
    | .error fault => .error fault
    | .ok (level, xp) =>
      if rows.contains level then .error (.duplicate level) else .ok (rows.put level xp)

/-- Add lines, which are counted from `number`. -/
def TableRows.addLines (source : String) (rows : TableRows) (number : Nat) :
    List (List Char) → Except TableFault TableRows
  | [] => .ok rows
  | line :: rest =>
    match rows.add line with
    | .error fault => .error (.row source number (.ofList line) fault)
    | .ok rows => addLines source rows (number + 1) rest

/-- The first level without a row, if the rows leave a gap. -/
def TableRows.gap? (rows : TableRows) : Option Nat :=
  ((List.range rows.size).map (· + 1)).find? fun level => !rows.contains level

/-- The floors of rows without a gap, by level. -/
def TableRows.floors (rows : TableRows) : Array Int :=
  ((List.range rows.size).map fun index => (rows.get? (index + 1)).getD 0).toArray

/-- The table that rows make. -/
def TableRows.table? (rows : TableRows) (source : String) : Except TableFault LevelTable :=
  if rows.size = 0 then .error (.noRows source)
  else
    match rows.get? 1 with
    | none => .error (.noFirst source)
    | some xp =>
      if xp ≠ 0 then .error (.firstFloor source xp)
      else
        match rows.gap? with
        | some level => .error (.gap source level)
        | none => (LevelTable.make? rows.floors source).mapError .floors

/-- The table that a text writes. -/
def LevelTable.read (text : List Char) (source : String) : Except TableFault LevelTable := do
  let rows ← TableRows.addLines source ∅ 1 (lines text)
  rows.table? source

end Progression
