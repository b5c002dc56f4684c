import Progression.Formula.Fault

namespace Progression

structure Linear where
  xpPerLevel : Nat
  maxLevel : Nat
  maxLevel_pos : 1 ≤ maxLevel
  /-- The top is within the range of XP. -/
  inRange : xpPerLevel * (maxLevel - 1) ≤ maxXp
  deriving DecidableEq

namespace Linear

/-- The XP of a level: an integer not below zero. -/
def checkXpPerLevel (given : Value) : Except FormulaFault Nat :=
  match given with
  | .int n => if 0 ≤ n then .ok n.toNat else .error (.xpPerLevel given)
  | _ => .error (.xpPerLevel given)

/-- The formula with given parameters. -/
def make? (xpPerLevel maxLevel : Value) : Except FormulaFault Linear := do
  let step ← checkXpPerLevel xpPerLevel
  let ⟨top, positive⟩ ← checkMaxLevel maxLevel
  if inRange : step * (top - 1) ≤ maxXp then return ⟨step, top, positive, inRange⟩
  else throw (.linearRange step top)

def xpForLevel (formula : Linear) (level : Int) : Int :=
  if level ≤ 1 then 0
  else if formula.maxLevel < level then maxXp
  else min (formula.xpPerLevel * (level - 1)) maxXp

def levelForXp (formula : Linear) (xp : Int) : Nat :=
  if xp < 0 then 1
  else if formula.xpPerLevel = 0 then formula.maxLevel
  else min formula.maxLevel (1 + xp.toNat / formula.xpPerLevel)

end Linear

end Progression
