import Progression.Formula.Fault

namespace Progression

open Number

/-- The name that expressions call the level by. -/
def levelName : String := "level"

/-- The computed floor of a level. -/
def expressionFloor (source : String) (term : Expression.Term) (level : Nat) : Except FloorFault Int := do
  let x ← (ofInt? level).elim (.error (.expression source level .overflow)) .ok
  let value ← (term.evaluate x).mapError (.expression source level)
  (clampFloor? value).elim (.error .undefined) .ok

structure Custom where
  expression : String
  /-- The constants as they are given, in the order of their names. -/
  constants : Entries String Value
  /-- The numbers that the constants denote. -/
  numbers : List (String × Float)
  term : Expression.Term
  maxLevel : Nat
  maxLevel_pos : 1 ≤ maxLevel
  notEmpty : Expression.checkNotEmpty expression = .ok ()
  numbered : Expression.checkConstants levelName constants.pairs = .ok numbers
  /-- The expression writes the term. -/
  compiled : Expression.compileOver expression levelName numbers = .ok term
  /-- The floors rise up to the top. -/
  checked : Curve.check (expressionFloor expression term) maxLevel = .ok ()

namespace Custom

/-- The formula with given parameters. Constants are checked in the order in which they are given. -/
def make? (expression : String) (constants : Entries String Value) (maxLevel : Value) :
    Except FormulaFault Custom := do
  let ⟨top, positive⟩ ← checkMaxLevel maxLevel
  match notEmpty : Expression.checkNotEmpty expression with
  | .error refusal => throw (.refused refusal)
  | .ok () =>
    let _ ← (Expression.checkConstants levelName constants.pairs).mapError FormulaFault.refused
    match numbered : Expression.checkConstants levelName constants.sorted.pairs with
    | .error refusal => throw (.refused refusal)
    | .ok numbers =>
      match compiled : Expression.compileOver expression levelName numbers with
      | .error refusal => throw (.refused refusal)
      | .ok term =>
        match checked : Curve.check (expressionFloor expression term) top with
        | .error fault => throw (.ofCurve (.custom expression) fault)
        | .ok () =>
          return ⟨expression, constants.sorted, numbers, term, top, positive, notEmpty, numbered, compiled, checked⟩

def xpForLevel (formula : Custom) (level : Int) : Int :=
  Curve.floorAt (expressionFloor formula.expression formula.term) formula.maxLevel formula.checked level

def levelForXp (formula : Custom) (xp : Int) : Nat :=
  Curve.search (fun level => formula.xpForLevel level) xp formula.maxLevel

/-- Equality of formulas; constants are compared as values, whichever way their numbers are given. -/
def agrees (a b : Custom) : Bool :=
  a.expression == b.expression && Value.agreeEntries a.constants.pairs b.constants.pairs
    && a.maxLevel == b.maxLevel

end Custom

end Progression
