import Progression.Formula.Custom
import Progression.Formula.Exponential
import Progression.Formula.Linear
import Progression.Formula.Table

namespace Progression

inductive Formula where
  | exponential (formula : Exponential)
  | linear (formula : Linear)
  | table (table : LevelTable)
  | custom (formula : Custom)

namespace Formula

def kind : Formula → FormulaKind
  | exponential _ => .exponential
  | linear _ => .linear
  | table _ => .table
  | custom _ => .custom

def maxLevel : Formula → Nat
  | exponential formula => formula.maxLevel
  | linear formula => formula.maxLevel
  | table levels => levels.maxLevel
  | custom formula => formula.maxLevel

/-- The XP that a level needs. -/
def xpForLevel : Formula → Int → Int
  | exponential formula => formula.xpForLevel
  | linear formula => formula.xpForLevel
  | table levels => levels.xpForLevel
  | custom formula => formula.xpForLevel

/-- The level that an amount of XP affords. -/
def levelForXp : Formula → Int → Nat
  | exponential formula => formula.levelForXp
  | linear formula => formula.levelForXp
  | table levels => levels.levelForXp
  | custom formula => formula.levelForXp

/-- Equality of formulas by their kinds and parameters. -/
def agrees : Formula → Formula → Bool
  | exponential a, exponential b => a.agrees b
  | linear a, linear b => a == b
  | table a, table b => a.agrees b
  | custom a, custom b => a.agrees b
  | _, _ => false

/-- The maximum level of a formula that is given none. -/
def defaultMaxLevel : Nat := 100000

/-- The parameters of an exponential formula that is given none. -/
def defaultBaseXp : Float := 100.0

def defaultExponent : Float := 1.7

/-- The XP of a level of a linear formula that is given none. -/
def defaultXpPerLevel : Int := 100

end Formula

end Progression
