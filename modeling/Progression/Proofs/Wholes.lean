import Progression.Number.Checked
import Progression.Proofs.Comparison

namespace Progression

namespace Number

theorem isFinite_of_small {n : Nat} (positive : 0 < n) (small : n < 2 ^ 53) :
    IsFinite (n <<< (52 - n.log2)) (unitScale - (52 - n.log2)) := by
  have nonzero : n ≠ 0 := Nat.ne_of_gt positive
  have bits : n.log2 ≤ 52 := Nat.le_of_lt_succ ((Nat.log2_lt nonzero).2 small)
  have low : 2 ^ n.log2 ≤ n := Nat.log2_self_le nonzero
  have high : n < 2 ^ (n.log2 + 1) := Nat.lt_log2_self
  have above : 2 ^ 52 ≤ n <<< (52 - n.log2) := by
    rw [Nat.shiftLeft_eq]
    calc 2 ^ 52 = 2 ^ n.log2 * 2 ^ (52 - n.log2) := by rw [← Nat.pow_add, Nat.add_sub_cancel' bits]
      _ ≤ n * 2 ^ (52 - n.log2) := Nat.mul_le_mul_right _ low
  have below : n <<< (52 - n.log2) < 2 ^ 53 := by
    rw [Nat.shiftLeft_eq]
    calc n * 2 ^ (52 - n.log2) < 2 ^ (n.log2 + 1) * 2 ^ (52 - n.log2) :=
        Nat.mul_lt_mul_of_pos_right high (Nat.two_pow_pos _)
      _ = 2 ^ 53 := by rw [← Nat.pow_add]; congr 1; omega
  refine ⟨by omega, below, fun _ => above, ?_⟩
  have scale : (unitScale - (52 - n.log2)) <<< 52 ≤ unitScale <<< 52 := by
    rw [Nat.shiftLeft_eq, Nat.shiftLeft_eq]
    exact Nat.mul_le_mul_right _ (Nat.sub_le _ _)
  have range : 2 ^ 53 + unitScale <<< 52 ≤ infinityBits := by decide
  omega

theorem ofInt?_eq_some {n : Int} {mantissa scale : Nat} (finite : IsFinite mantissa scale)
    (same : n.natAbs <<< unitScale = mantissa <<< scale) : ofInt? n = some (ofInt n) := by
  have bits := nearestBits_eq finite (roundsTo_self finite same)
  have bounded : nearestBits n.natAbs 1 < infinityBits := bits ▸ finite.bounded
  rw [ofInt?, if_pos bounded, ofInt, ofFraction]
  simp only [decide_eq_true_eq]

theorem ofInt?_of_small {n : Int} (small : n.natAbs < 2 ^ 53) : ofInt? n = some (ofInt n) := by
  rcases Nat.eq_zero_or_pos n.natAbs with zero | positive
  · rw [Int.natAbs_eq_zero.1 zero]
    decide +kernel
  · refine ofInt?_eq_some (isFinite_of_small positive small) ?_
    have bits : n.natAbs.log2 ≤ 52 := Nat.le_of_lt_succ ((Nat.log2_lt (Nat.ne_of_gt positive)).2 small)
    have fits : 52 - n.natAbs.log2 ≤ unitScale := le_trans (Nat.sub_le _ _) (by decide)
    rw [← Nat.shiftLeft_add, Nat.add_sub_cancel' fits]

theorem ofInt?_of_neighbour {x : Float} {negative : Bool} {mantissa scale : Nat}
    (parts : Binary.ofFloat x = .finite negative mantissa scale) {n : Int}
    (neighbour : n.natAbs = wholeBelow mantissa scale ∨ n.natAbs = wholeAbove mantissa scale) :
    ofInt? n = some (ofInt n) := by
  obtain ⟨-, -, finite⟩ := toBits_of_finite parts
  by_cases zero : mantissa = 0
  · have none : n.natAbs = 0 := by
      rcases neighbour with below | above
      · simpa [wholeBelow, zero] using below
      · simpa [wholeAbove, wholeBelow, zero] using above
    exact ofInt?_of_small (by omega)
  · by_cases large : unitScale ≤ scale
    · have exact : n.natAbs = mantissa <<< (scale - unitScale) := by
        rcases neighbour with below | above
        · rwa [wholeBelow, if_pos large] at below
        · rwa [wholeAbove, if_pos (.inl large), wholeBelow, if_pos large] at above
      refine ofInt?_eq_some (finite zero) ?_
      rw [exact, ← Nat.shiftLeft_add, Nat.sub_add_cancel large]
    · have small : mantissa < 2 ^ 53 := (finite zero).small
      have half : wholeBelow mantissa scale < 2 ^ 52 := by
        rw [wholeBelow, if_neg large, Nat.shiftRight_eq_div_pow, Nat.div_lt_iff_lt_mul (Nat.two_pow_pos _)]
        have twice : 2 ^ 1 ≤ 2 ^ (unitScale - scale) := Nat.pow_le_pow_right (by decide) (by omega)
        have scaled := Nat.mul_le_mul_left (2 ^ 52) twice
        omega
      have next : wholeAbove mantissa scale ≤ wholeBelow mantissa scale + 1 := by
        rw [wholeAbove]
        split <;> omega
      exact ofInt?_of_small (by omega)

theorem log2_natAbs_of_ofInt? {n : Int} {x : Float} (denotes : ofInt? n = some x) : n.natAbs.log2 < 1024 := by
  by_contra large
  have magnitude : 1024 ≤ n.natAbs.log2 := Nat.le_of_not_lt large
  have positive : n.natAbs ≠ 0 := by
    intro zero
    rw [zero, Nat.log2_zero] at magnitude
    omega
  have units : 2 ^ (n.natAbs.log2 + unitScale) ≤ n.natAbs <<< unitScale := by
    rw [Nat.shiftLeft_eq, Nat.pow_add]
    exact Nat.mul_le_mul_right _ (Nat.log2_self_le positive)
  have nonzero : n.natAbs <<< unitScale ≠ 0 := Nat.ne_of_gt (lt_of_lt_of_le (Nat.two_pow_pos _) units)
  have bits : 1024 + 1074 ≤ (n.natAbs <<< unitScale).log2 :=
    le_trans (Nat.add_le_add_right magnitude unitScale) ((Nat.le_log2 nonzero).2 units)
  -- The bits of the infinite number are those of the least mantissa at scale 2046, and the scale here is no smaller.
  have past : infinityBits ≤ nearestBits n.natAbs 1 := by
    rw [nearestBits, Nat.div_one]
    generalize n.natAbs <<< unitScale = total at nonzero bits ⊢
    refine le_min ?_ le_rfl
    have scaled : 2 ^ 52 ≤ total / (1 <<< (total.log2 - 52)) := by
      rw [Nat.one_shiftLeft, Nat.le_div_iff_mul_le (Nat.two_pow_pos _), ← Nat.pow_add,
        Nat.add_sub_cancel' (le_trans (by decide) bits)]
      exact Nat.log2_self_le nonzero
    have nearest : total / (1 <<< (total.log2 - 52)) ≤ roundQuotient total (1 <<< (total.log2 - 52)) := by
      rw [roundQuotient]
      split_ifs <;> omega
    have scale : 2046 <<< 52 ≤ (total.log2 - 52) <<< 52 := by
      rw [Nat.shiftLeft_eq, Nat.shiftLeft_eq]
      exact Nat.mul_le_mul_right _ (by omega)
    have whole : infinityBits = 2 ^ 52 + 2046 <<< 52 := by decide
    omega
  rw [ofInt?, if_neg (Nat.not_lt.2 past)] at denotes
  cases denotes

/-- What a number rounds to by a rule, before it is a number of the machine. -/
def wholeOf (rule : Bool → Nat → Nat → Int) (x : Float) : Except ArithmeticFault Int :=
  match Binary.ofFloat x with
  | .finite negative mantissa scale => .ok (rule negative mantissa scale)
  | .infinite _ => .error .overflow
  | .undefined => .error .domain

/-- A rule that gives one of the integers next to a number. -/
def RoundsToNeighbour (rule : Bool → Nat → Nat → Int) : Prop :=
  ∀ negative mantissa scale, (rule negative mantissa scale).natAbs = wholeBelow mantissa scale ∨
    (rule negative mantissa scale).natAbs = wholeAbove mantissa scale

theorem roundsToNeighbour_floorOf : RoundsToNeighbour floorOf := by
  intro negative mantissa scale
  cases negative with
  | true => exact .inr (Int.natAbs_neg _)
  | false => exact .inl rfl

theorem roundsToNeighbour_ceilOf : RoundsToNeighbour ceilOf := by
  intro negative mantissa scale
  cases negative with
  | true => exact .inl (Int.natAbs_neg _)
  | false => exact .inr rfl

/-- No number is rounded past the finite range. -/
theorem rounded_eq {rule : Bool → Nat → Nat → Int} (neighbour : RoundsToNeighbour rule) (x : Float) :
    rounded rule x = (wholeOf rule x).bind fun n => (ofInt? n).elim (.error .overflow) .ok := by
  rw [rounded, wholeOf]
  cases parts : Binary.ofFloat x with
  | finite negative mantissa scale =>
    simp only [Except.bind, ofInt?_of_neighbour parts (neighbour negative mantissa scale), Option.elim_some]
  | infinite negative => rfl
  | undefined => rfl

end Number

end Progression
