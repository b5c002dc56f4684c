import Progression.Number.Binary

/-!
The text of a number with the fewest digits that still read back as that number. Decimal grids are tried
from coarse to fine; on each grid only the two neighbours of the number matter, and the first grid with a
neighbour inside the rounding interval wins.
-/

namespace Progression.Number

/-- The reals that round to a number, as multiples of a quarter of a unit. The lower half is shorter
just above a power of two; the ends belong to the interval iff the mantissa is even. -/
structure RoundingInterval where
  lower : Nat
  value : Nat
  upper : Nat
  closed : Bool
  deriving Repr

def RoundingInterval.ofFinite (mantissa scale : Nat) : RoundingInterval where
  lower := (4 * mantissa - if mantissa = 1 <<< 52 ∧ 0 < scale then 1 else 2) <<< scale
  value := (4 * mantissa) <<< scale
  upper := (4 * mantissa + 2) <<< scale
  closed := mantissa % 2 = 0

/-- Whether `digits * step` lies in the interval, both sides already brought to one denominator. -/
def RoundingInterval.holds (interval : RoundingInterval) (factor digits step : Nat) : Bool :=
  let point := digits * step
  if interval.closed then interval.lower * factor ≤ point ∧ point ≤ interval.upper * factor
  else interval.lower * factor < point ∧ point < interval.upper * factor

/-- The better neighbour on the grid of multiples of `10 ^ exponent`, if one rounds to the number: the
nearer of two, and the even one of two equally near. -/
def RoundingInterval.onGrid? (interval : RoundingInterval) (exponent : Int) : Option Nat :=
  let factor := Nat.pow 10 (-exponent).toNat
  let step := Nat.pow 10 exponent.toNat <<< (unitScale + 2)
  let below := interval.value * factor / step
  let rest := interval.value * factor % step
  match interval.holds factor below step, interval.holds factor (below + 1) step with
  | true, true =>
    some (if 2 * rest < step then below else if step < 2 * rest then below + 1 else below + below % 2)
  | true, false => some below
  | false, true => some (below + 1)
  | false, false => none

/-- Try the grids downwards from `exponent`. -/
def RoundingInterval.firstGrid (interval : RoundingInterval) : Nat → Int → Nat × Int
  | 0, exponent => (0, exponent)
  | tries + 1, exponent =>
    match interval.onGrid? exponent with
    | some digits => (digits, exponent)
    | none => interval.firstGrid tries (exponent - 1)

/-- The shortest decimal `digits * 10 ^ exponent` that rounds to a positive finite number. The first grid
is coarser than the number itself; seventeen digits always suffice. -/
def shortestDecimal (mantissa scale : Nat) : Nat × Int :=
  let magnitude : Int := (mantissa.log2 + 1 + scale : Nat) - (unitScale : Int)
  (RoundingInterval.ofFinite mantissa scale).firstGrid 24 (magnitude * 30103 / 100000 + 2)

/-- How a decimal is laid out as text. -/
structure DecimalStyle where
  /-- Scientific exponents from here on are written out. -/
  leastPositional : Int
  /-- Scientific exponents from here on are not. -/
  positionalBound : Int
  /-- What follows a number without fraction digits. -/
  wholeMark : String

/-- Numbers keep a digit after the point, and are written out for exponents from -4 to 15. -/
def DecimalStyle.standard : DecimalStyle := ⟨-4, 16, ".0"⟩

/-- The same without the mark of a whole number. -/
def DecimalStyle.bare : DecimalStyle := { DecimalStyle.standard with wholeMark := "" }

def zeros (count : Nat) : String := "".pushn '0' count

/-- A scientific exponent: sign always, two digits at least. -/
def exponentText (exponent : Int) : String :=
  let digits := toString exponent.natAbs
  "e" ++ (if exponent < 0 then "-" else "+") ++ (if digits.length < 2 then "0" ++ digits else digits)

/-- The text of `digits * 10 ^ exponent` for positive digits. -/
def DecimalStyle.layOut (style : DecimalStyle) (digits : Nat) (exponent : Int) : String :=
  let text := toString digits
  let scientific := exponent + text.length - 1
  if scientific < style.leastPositional ∨ style.positionalBound ≤ scientific then
    let rest := text.drop 1
    (text.take 1).toString ++ (if rest.isEmpty then "" else "." ++ rest.toString)
      ++ exponentText scientific
  else if 0 ≤ exponent then text ++ zeros exponent.toNat ++ style.wholeMark
  else if scientific < 0 then "0." ++ zeros (-scientific - 1).toNat ++ text
  else
    let whole := (scientific + 1).toNat
    (text.take whole).toString ++ "." ++ (text.drop whole).toString

/-- The text of a number. -/
def DecimalStyle.render (style : DecimalStyle) (x : Float) : String :=
  match Binary.ofFloat x with
  | .undefined => "nan"
  | .infinite negative => if negative then "-inf" else "inf"
  | .finite negative mantissa scale =>
    let sign := if negative then "-" else ""
    if mantissa = 0 then sign ++ "0" ++ style.wholeMark
    else
      let (digits, exponent) := shortestDecimal mantissa scale
      sign ++ style.layOut digits exponent

/-- The shortest text that reads back as the number. -/
def shortest (x : Float) : String := DecimalStyle.standard.render x

end Progression.Number
