import Progression.Entries
import Progression.Expression.Tree
import Progression.Number.Checked
import Progression.Text.Identifier
import Progression.Value

/-!
Arithmetic terms. A tree becomes a term if every part of it is arithmetic over one unknown and declared
constants; a term holds the values of its constants, so that working it out can meet no unknown name.
Trees and terms may be of any depth: the limit that an interpreter sets to its own recursion, past which it
gives a deep expression up, is left out of the model.
-/

namespace Progression.Expression

open Number

/-- The functions that expressions may call. -/
inductive Function where
  | sqrt
  | log
  | exp
  | floor
  | ceil
  | abs
  | min
  | max
  deriving DecidableEq, Repr

namespace Function

/-- The name by which expressions call a function. -/
def name : Function → String
  | sqrt => "sqrt"
  | log => "log"
  | exp => "exp"
  | floor => "floor"
  | ceil => "ceil"
  | abs => "abs"
  | min => "min"
  | max => "max"

def all : List Function := [sqrt, log, exp, floor, ceil, abs, min, max]

/-- The function that a name calls. -/
def ofName? (text : String) : Option Function := all.find? fun function => function.name = text

/-- The value of a function, if it takes that many arguments and is defined there. -/
def apply : Function → List Float → Except ArithmeticFault Float
  | sqrt, [x] => squareRoot x
  | log, [x] => logarithm x
  | log, [x, base] => logarithmTo base x
  | exp, [x] => exponential x
  | floor, [x] => Number.floor x
  | ceil, [x] => ceiling x
  | abs, [x] => .ok x.abs
  | min, first :: other :: others => .ok (least first (other :: others))
  | max, first :: other :: others => .ok (greatest first (other :: others))
  | _, _ => .error .argumentCount

end Function

/-- The value of an operation, if it has one. -/
def Operator.apply : Operator → Float → Float → Except ArithmeticFault Float
  | add, a, b => .ok (a + b)
  | subtract, a, b => .ok (a - b)
  | multiply, a, b => .ok (a * b)
  | divide, a, b => Number.divide a b
  | power, a, b => Number.power a b

/-- An arithmetic term over one unknown. -/
inductive Term where
  | int (value : Nat)
  | float (value : Float)
  | unknown
  | constant (name : String) (value : Float)
  | signed (negative : Bool) (operand : Term)
  | binary (operator : Operator) (left right : Term)
  | call (function : Function) (arguments : List Term)

namespace Term

mutual

/-- Work out a term at a value of its unknown, from left to right. -/
def valueAt (x : Float) : Term → Except ArithmeticFault Float
  | int value => (ofInt? value).elim (.error .overflow) .ok
  | float value => .ok value
  | .unknown => .ok x
  | constant _ value => .ok value
  | signed negative operand => do
    let value ← operand.valueAt x
    return if negative then -value else value
  | binary operator left right => do
    let a ← left.valueAt x
    let b ← right.valueAt x
    operator.apply a b
  | call function arguments => do function.apply (← valuesAt x arguments)

/-- Work out several terms, from left to right. -/
def valuesAt (x : Float) : List Term → Except ArithmeticFault (List Float)
  | [] => .ok []
  | first :: rest => do
    let value ← first.valueAt x
    return value :: (← valuesAt x rest)

end

/-- Work out a term; a calculation that leaves the finite range counts as infinite. -/
def evaluate (term : Term) (x : Float) : Except ArithmeticFault Float :=
  match term.valueAt x with
  | .error .overflow => .ok (1.0 / 0.0)
  | result => result

end Term

end Progression.Expression
