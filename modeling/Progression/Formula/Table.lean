import Progression.Formula.Fault

namespace Progression

/-- The listed floor of a level that counts from one; no level is past the list. -/
def listedFloor (floors : Array Int) (level : Nat) : Int := floors.getD (level - 1) 0

structure LevelTable where
  floors : Array Int
  /-- The name that the table goes by. -/
  source : String
  nonempty : 1 ≤ floors.size
  first : listedFloor floors 1 = 0
  /-- The floors rise up to the top. -/
  checked : Curve.check (ε := Empty) (fun level => .ok (listedFloor floors level)) floors.size = .ok ()

namespace LevelTable

/-- The table with given floors. -/
def make? (floors : Array Int) (source : String) : Except FormulaFault LevelTable :=
  if nonempty : 1 ≤ floors.size then
    if first : listedFloor floors 1 = 0 then
      match checked : Curve.check (ε := Empty) (fun level => .ok (listedFloor floors level)) floors.size with
      | .ok () => .ok ⟨floors, source, nonempty, first, checked⟩
      | .error (.plateau level floor previous) => .error (.tableOrder source level floor previous)
    else .error (.firstFloor source (listedFloor floors 1))
  else .error (.noLevels source)

def maxLevel (table : LevelTable) : Nat := table.floors.size

def xpForLevel (table : LevelTable) (level : Int) : Int :=
  if level ≤ 1 then 0 else listedFloor table.floors (min level.toNat table.maxLevel)

def levelForXp (table : LevelTable) (xp : Int) : Nat :=
  if xp < 0 then 1
  else Curve.bisect (fun level => listedFloor table.floors level ≤ xp) 1 (table.maxLevel + 1)

/-- Equality of tables. -/
def agrees (a b : LevelTable) : Bool := a.floors == b.floors && a.source == b.source

end LevelTable

end Progression
