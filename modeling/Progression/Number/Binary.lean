/-!
Double-width binary numbers as exact quantities. A finite one is a natural number of units, the unit
being the least positive number, so its whole part and the nearest number to a fraction are questions
about naturals.
-/

namespace Progression.Number

/-- One is `2 ^ unitScale` units. -/
def unitScale : Nat := 1074

/-- A number taken apart: a finite one is `± mantissa * 2 ^ scale` units. -/
inductive Binary where
  | finite (negative : Bool) (mantissa scale : Nat)
  | infinite (negative : Bool)
  | undefined
  deriving DecidableEq, Repr

/-- Take a number apart along the fields of its bit pattern: sign, eleven bits of exponent, fraction. -/
def Binary.ofFloat (x : Float) : Binary :=
  let bits := x.toBits.toNat
  let negative := decide (1 <<< 63 ≤ bits)
  let exponent := bits >>> 52 % 1 <<< 11
  let fraction := bits % 1 <<< 52
  if exponent = 2047 then if fraction = 0 then .infinite negative else .undefined
  else if exponent = 0 then .finite negative fraction 0
  else .finite negative (1 <<< 52 + fraction) (exponent - 1)

/-- The whole ones in `mantissa * 2 ^ scale` units. -/
def wholeBelow (mantissa scale : Nat) : Nat :=
  if unitScale ≤ scale then mantissa <<< (scale - unitScale) else mantissa >>> (unitScale - scale)

/-- The least number of whole ones that covers `mantissa * 2 ^ scale` units. -/
def wholeAbove (mantissa scale : Nat) : Nat :=
  let below := wholeBelow mantissa scale
  if unitScale ≤ scale ∨ below <<< (unitScale - scale) = mantissa then below else below + 1

/-- The greatest integer that is not above a finite number. -/
def floorOf (negative : Bool) (mantissa scale : Nat) : Int :=
  if negative then -(wholeAbove mantissa scale : Int) else wholeBelow mantissa scale

/-- The least integer that is not below a finite number. -/
def ceilOf (negative : Bool) (mantissa scale : Nat) : Int :=
  if negative then -(wholeBelow mantissa scale : Int) else wholeAbove mantissa scale

/-- Whether a number has no fraction; the infinite ones count as having none. -/
def isWhole (x : Float) : Bool :=
  match Binary.ofFloat x with
  | .finite _ mantissa scale => wholeBelow mantissa scale == wholeAbove mantissa scale
  | .infinite _ => true
  | .undefined => false

/-- The natural number nearest to a quotient; a half goes to the even neighbour. -/
def roundQuotient (numerator denominator : Nat) : Nat :=
  let quotient := numerator / denominator
  let rest := numerator % denominator
  if 2 * rest < denominator then quotient
  else if denominator < 2 * rest then quotient + 1
  else quotient + quotient % 2

/-- The bit pattern of positive infinity, which is also the bound of the finite patterns. -/
def infinityBits : Nat := 2047 <<< 52

/-- The bit pattern of the number nearest to a fraction. The scale leaves a mantissa of 53 bits where the
fraction is large enough; adding scale and mantissa carries a mantissa rounded up into the next scale. -/
def nearestBits (numerator denominator : Nat) : Nat :=
  let units := numerator <<< unitScale
  let scale := (units / denominator).log2 - 52
  min (roundQuotient units (denominator <<< scale) + scale <<< 52) infinityBits

/-- The number nearest to a fraction with a positive denominator; infinite past the finite range. -/
def ofFraction (negative : Bool) (numerator denominator : Nat) : Float :=
  .ofBits (.ofNat (nearestBits numerator denominator + if negative then 1 <<< 63 else 0))

/-- The number nearest to `± digits * 10 ^ exponent`. Exponents that can only give zero or infinity are
settled without forming the power. -/
def ofDecimal (negative : Bool) (digits : Nat) (exponent : Int) : Float :=
  if digits = 0 then ofFraction negative 0 1
  else if 400 < exponent then ofFraction negative (.pow 10 400) 1
  else if exponent + digits.log2 < -400 then ofFraction negative 0 1
  else if 0 ≤ exponent then ofFraction negative (digits * .pow 10 exponent.toNat) 1
  else ofFraction negative digits (.pow 10 (-exponent).toNat)

/-- The number nearest to an integer, if that is finite. -/
def ofInt? (n : Int) : Option Float :=
  let bits := nearestBits n.natAbs 1
  if bits < infinityBits then some (.ofBits (.ofNat (bits + if n < 0 then 1 <<< 63 else 0))) else none

/-- The number nearest to an integer. -/
def ofInt (n : Int) : Float := ofFraction (n < 0) n.natAbs 1

/-- Exact comparison of a number with an integer. -/
def eqInt (x : Float) (n : Int) : Bool :=
  match Binary.ofFloat x with
  | .finite negative mantissa scale =>
    floorOf negative mantissa scale == n && ceilOf negative mantissa scale == n
  | _ => false

end Progression.Number
