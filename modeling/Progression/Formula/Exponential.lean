import Progression.Formula.Fault

namespace Progression

open Number

/-- The computed floor of a level above the first. -/
def exponentialFloor (baseXp exponent : Float) (level : Nat) : Except FloorFault Int :=
  (clampFloor? (baseXp * (ofInt (level - 1 : Nat)).pow exponent)).elim (.error .undefined) .ok

/-- A parameter that is a finite number above zero, as it is given and as it is used. -/
structure PositiveParameter where
  given : Value
  value : Float
  isNumber : given.isNumber = true
  denotes : given.toFloat = .ok value
  finite : value.isFinite = true
  positive : 0 < value

/-- Check a parameter that must be a finite number above zero. -/
def PositiveParameter.check (name : String) (given : Value) : Except FormulaFault PositiveParameter :=
  if isNumber : given.isNumber = true then
    match denotes : given.toFloat with
    | .error _ => .error .tooLarge
    | .ok x =>
      if finite : x.isFinite = true then
        if positive : 0 < x then .ok ⟨given, x, isNumber, denotes, finite, positive⟩
        else .error (.notPositive name given)
      else .error (.notPositive name given)
  else .error (.notPositive name given)

structure Exponential where
  baseXp : PositiveParameter
  exponent : PositiveParameter
  maxLevel : Nat
  maxLevel_pos : 1 ≤ maxLevel
  /-- The floors rise up to the top. -/
  checked : Curve.check (exponentialFloor baseXp.value exponent.value) maxLevel = .ok ()

namespace Exponential

/-- The formula with given parameters. -/
def make? (baseXp exponent maxLevel : Value) : Except FormulaFault Exponential := do
  let base ← PositiveParameter.check "base_xp" baseXp
  let power ← PositiveParameter.check "exponent" exponent
  let ⟨top, positive⟩ ← checkMaxLevel maxLevel
  match checked : Curve.check (exponentialFloor base.value power.value) top with
  | .error fault => throw (.ofCurve (.exponential baseXp exponent) fault)
  | .ok () => return ⟨base, power, top, positive, checked⟩

def xpForLevel (formula : Exponential) (level : Int) : Int :=
  Curve.floorAt (exponentialFloor formula.baseXp.value formula.exponent.value) formula.maxLevel
    formula.checked level

def levelForXp (formula : Exponential) (xp : Int) : Nat :=
  Curve.search (fun level => formula.xpForLevel level) xp formula.maxLevel

/-- Equality of formulas; parameters are compared as they are given, by the numbers that they denote. -/
def agrees (a b : Exponential) : Bool :=
  a.baseXp.given.agrees b.baseXp.given && a.exponent.given.agrees b.exponent.given
    && a.maxLevel == b.maxLevel

end Exponential

end Progression
