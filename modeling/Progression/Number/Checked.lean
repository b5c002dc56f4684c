import Progression.Fault
import Progression.Number.Shortest

namespace Progression.Number

/-- Why a calculation has no result. -/
inductive ArithmeticFault where
  /-- A finite calculation leaves the range of finite numbers. -/
  | overflow
  /-- A divisor is zero, or zero is raised to a negative power. -/
  | zeroDivision
  /-- A function is not defined at its argument. -/
  | domain
  /-- A negative base with a fractional exponent. -/
  | noRealValue (base exponent : Float)
  /-- A function is called with a number of arguments that it does not take. -/
  | argumentCount

def ArithmeticFault.kind : ArithmeticFault → FaultKind
  | overflow => .overflow
  | zeroDivision => .zeroDivision
  | domain | noRealValue _ _ => .value
  | argumentCount => .type

/-- What a fault says. -/
def ArithmeticFault.message : ArithmeticFault → String
  | overflow => "result too large"
  | zeroDivision => "division by zero"
  | domain => "function not defined there"
  | noRealValue base exponent =>
    shortest base ++ " ^ " ++ shortest exponent ++ " has no real value"
  | argumentCount => "wrong number of arguments"

/-- Either zero is refused as a divisor. -/
def divide (a b : Float) : Except ArithmeticFault Float :=
  if b == 0 then .error .zeroDivision else .ok (a / b)

/-- Refuse an infinite result of finite arguments. -/
def finiteFrom (finiteArguments : Bool) (result : Float) : Except ArithmeticFault Float :=
  if finiteArguments && result.isInf then .error .overflow else .ok result

/-- A power of real numbers, if it is real. -/
def power (base exponent : Float) : Except ArithmeticFault Float :=
  if base.isFinite && exponent.isFinite then
    if base == 0 && exponent < 0 then .error .zeroDivision
    else if base < 0 && !isWhole exponent then
      if ((-base).pow exponent).isInf then .error .overflow else .error (.noRealValue base exponent)
    else finiteFrom true (base.pow exponent)
  else .ok (base.pow exponent)

def squareRoot (x : Float) : Except ArithmeticFault Float :=
  if x < 0 then .error .domain else .ok x.sqrt

def exponential (x : Float) : Except ArithmeticFault Float := finiteFrom x.isFinite x.exp

def logarithm (x : Float) : Except ArithmeticFault Float :=
  if x ≤ 0 then .error .domain else .ok x.log

/-- The logarithm to a base, as a quotient of natural ones. -/
def logarithmTo (base x : Float) : Except ArithmeticFault Float := do
  let dividend ← logarithm x
  let divisor ← logarithm base
  divide dividend divisor

/-- A number rounded to an integer by a rule for finite ones. -/
def rounded (rule : Bool → Nat → Nat → Int) (x : Float) : Except ArithmeticFault Float :=
  match Binary.ofFloat x with
  | .finite negative mantissa scale => .ok (ofInt (rule negative mantissa scale))
  | .infinite _ => .error .overflow
  | .undefined => .error .domain

def floor (x : Float) : Except ArithmeticFault Float := rounded floorOf x

def ceiling (x : Float) : Except ArithmeticFault Float := rounded ceilOf x

/-- The first of several numbers that none is better than, going from left to right. -/
def best (better : Float → Float → Bool) (first : Float) (others : List Float) : Float :=
  others.foldl (fun champion other => if better other champion then other else champion) first

def least (first : Float) (others : List Float) : Float := best (· < ·) first others

def greatest (first : Float) (others : List Float) : Float := best (· > ·) first others

end Progression.Number
