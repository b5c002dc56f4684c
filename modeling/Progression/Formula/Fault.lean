import Progression.Curve
import Progression.Expression.Compile
import Progression.Formula.Kind

namespace Progression

open Number Text

/-- A curve whose floors are computed, by the parameters that messages name it by. -/
inductive ComputedCurve where
  | exponential (baseXp exponent : Value)
  | custom (expression : String)

def ComputedCurve.label : ComputedCurve → String
  | exponential baseXp exponent =>
    "Exponential formula (base_xp=" ++ baseXp.display ++ ", exponent=" ++ exponent.display ++ ")"
  | custom expression => "Custom XP expression " ++ quoted expression

/-- Why a floor cannot be computed. -/
inductive FloorFault where
  /-- The floor is the undefined number. -/
  | undefined
  /-- The expression has no value at a level. -/
  | expression (source : String) (level : Nat) (fault : ArithmeticFault)

inductive FormulaFault where
  | unknownKind (given : Option String)
  /-- A parameter of an exponential formula is no finite number above zero. -/
  | notPositive (parameter : String) (given : Value)
  /-- An integer parameter is past the finite range. -/
  | tooLarge
  | maxLevel (given : Value)
  | xpPerLevel (given : Value)
  /-- A linear formula needs more than the greatest XP. -/
  | linearRange (xpPerLevel maxLevel : Nat)
  | noLevels (source : String)
  /-- The first floor of a table is not zero. -/
  | firstFloor (source : String) (floor : Int)
  /-- A floor of a table is not above the one before it. -/
  | tableOrder (source : String) (level : Nat) (floor previous : Int)
  | refused (refusal : Expression.Refusal)
  | floor (fault : FloorFault)
  | plateau (curve : ComputedCurve) (level : Nat) (floor previous : Int)

/-- What an unknown name of a kind leads to. -/
def unknownKindMessage (given : Option String) : String :=
  "Unknown formula type '" ++ given.getD "None" ++ "'. Expected one of: "
    ++ ", ".intercalate (FormulaKind.all.map FormulaKind.name)

/-- The part of a message that compares a floor with the one before it. -/
def floorComparison (level : Nat) (floor previous : Int) : String :=
  ": level " ++ toString level ++ " needs " ++ toString floor ++ " XP, which is not above level "
    ++ toString (level - 1) ++ " (" ++ toString previous ++ " XP)"

/-- What a fault of a floor says; the reason is told only if it is that no real value exists. -/
def FloorFault.message : FloorFault → String
  | undefined => "XP formula produced NaN"
  | expression source level fault =>
    "Custom XP expression " ++ quoted source ++ " failed at level " ++ toString level ++
      match fault with
      | .noRealValue _ _ => ": " ++ fault.message
      | _ => ""

namespace FormulaFault

def kind : FormulaFault → FaultKind
  | tooLarge => .overflow
  | refused refusal => refusal.kind
  | _ => .configuration

/-- The kind of the arithmetic fault behind a fault. -/
def cause? : FormulaFault → Option FaultKind
  | floor (.expression _ _ fault) => some fault.kind
  | _ => none

def message : FormulaFault → String
  | unknownKind given => unknownKindMessage given
  | notPositive parameter given =>
    "Exponential formula " ++ parameter ++ " must be a finite number > 0, got " ++ given.display
  | tooLarge => "The integer is too large"
  | maxLevel given => "max_level must be an integer >= 1, got " ++ given.display
  | xpPerLevel given => "Linear formula xp_per_level must be an integer >= 0, got " ++ given.display
  | linearRange step top =>
    "Linear formula xp_per_level=" ++ toString step ++ " exceeds the XP range before max_level "
      ++ toString top
  | noLevels source => "Level table " ++ source ++ " has no levels"
  | firstFloor source xp => "Level table " ++ source ++ ": level 1 must require 0 XP, got " ++ toString xp
  | tableOrder source level xp previous => "Level table " ++ source ++ floorComparison level xp previous
  | refused refusal => refusal.message
  | floor fault => fault.message
  | plateau curve level xp previous =>
    curve.label ++ floorComparison level xp previous ++ ". Lower max_level or steepen the curve"

end FormulaFault

/-- A maximum level: an integer not below one. -/
def checkMaxLevel (given : Value) : Except FormulaFault { n : Nat // 1 ≤ n } :=
  match given with
  | .int n => if positive : 1 ≤ n then .ok ⟨n.toNat, by omega⟩ else .error (.maxLevel given)
  | _ => .error (.maxLevel given)

/-- What a fault of a computed curve means for its formula. -/
def FormulaFault.ofCurve (curve : ComputedCurve) : Curve.Fault FloorFault → FormulaFault
  | .floor fault => .floor fault
  | .plateau level xp previous => .plateau curve level xp previous

end Progression
