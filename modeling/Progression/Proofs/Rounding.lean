import Mathlib
import Progression.Number.Shortest

/-!
The decimal with the fewest digits rounds to the number that it was made for. All quantities are counted in
quarters of a unit, so that the interval of what rounds to a number has whole ends.
-/

namespace Progression.Number

/-- A natural number within half a unit of a quotient is what the quotient is rounded to; a half goes to the
even one. -/
theorem roundQuotient_eq {numerator denominator nearest : Nat} (positive : 0 < denominator)
    (low : 2 * (nearest * denominator) ≤ 2 * numerator + denominator)
    (high : 2 * numerator ≤ 2 * (nearest * denominator) + denominator)
    (odd : nearest % 2 = 1 → 2 * (nearest * denominator) < 2 * numerator + denominator ∧
      2 * numerator < 2 * (nearest * denominator) + denominator) :
    roundQuotient numerator denominator = nearest := by
  rw [roundQuotient]
  have split : numerator / denominator * denominator + numerator % denominator = numerator := by
    rw [Nat.mul_comm]
    exact Nat.div_add_mod numerator denominator
  have rest := Nat.mod_lt numerator positive
  generalize numerator / denominator = quotient at split
  generalize numerator % denominator = remainder at split rest
  have neighbour : nearest = quotient ∨ nearest = quotient + 1 := by
    rcases Nat.lt_trichotomy nearest quotient with less | same | greater
    · have := Nat.mul_le_mul_right denominator (show nearest + 1 ≤ quotient from less)
      rw [Nat.add_mul] at this
      omega
    · exact .inl same
    · refine .inr (Nat.le_antisymm (Nat.le_of_not_lt fun far => ?_) greater)
      have := Nat.mul_le_mul_right denominator (show quotient + 2 ≤ nearest from far)
      rw [Nat.add_mul] at this
      omega
  rcases neighbour with rfl | rfl
  · split_ifs <;> omega
  · rw [Nat.add_mul] at low high odd
    split_ifs <;> omega

/-- The mantissas and scales of finite numbers above zero: a mantissa of 53 bits, or of fewer at the least
scale. -/
structure IsFinite (mantissa scale : Nat) : Prop where
  positive : 0 < mantissa
  small : mantissa < 1 <<< 53
  normal : 0 < scale → 1 <<< 52 ≤ mantissa
  bounded : mantissa + scale <<< 52 < infinityBits

/-- The fractions, in units, that round to a number. -/
structure RoundsTo (numerator denominator mantissa scale : Nat) : Prop where
  positive : 0 < denominator
  low : (RoundingInterval.ofFinite mantissa scale).lower * denominator ≤ 4 * (numerator <<< unitScale)
  high : 4 * (numerator <<< unitScale) ≤ (RoundingInterval.ofFinite mantissa scale).upper * denominator
  odd : mantissa % 2 = 1 →
    (RoundingInterval.ofFinite mantissa scale).lower * denominator < 4 * (numerator <<< unitScale) ∧
      4 * (numerator <<< unitScale) < (RoundingInterval.ofFinite mantissa scale).upper * denominator

theorem log2_eq_of_le {n exponent : Nat} (low : 2 ^ exponent ≤ n) (high : n < 2 ^ (exponent + 1)) :
    n.log2 = exponent :=
  (Nat.log2_eq_iff (Nat.ne_of_gt (Nat.lt_of_lt_of_le (Nat.two_pow_pos exponent) low))).2 ⟨low, high⟩

/-- How far below a number the fractions reach that round to it, in quarters of its unit in the last place. -/
def slack (mantissa scale : Nat) : Nat := if mantissa = 1 <<< 52 ∧ 0 < scale then 1 else 2

theorem RoundsTo.bounds {numerator denominator mantissa scale : Nat}
    (rounds : RoundsTo numerator denominator mantissa scale) :
    let unit := denominator <<< scale
    let units := numerator <<< unitScale
    4 * (mantissa * unit) ≤ 4 * units + slack mantissa scale * unit ∧
      4 * units ≤ 4 * (mantissa * unit) + 2 * unit ∧
      (mantissa % 2 = 1 → 4 * (mantissa * unit) < 4 * units + slack mantissa scale * unit ∧
        4 * units < 4 * (mantissa * unit) + 2 * unit) := by
  intro unit units
  have scaled (count : Nat) : count <<< scale * denominator = count * unit := by
    simp only [unit, Nat.shiftLeft_eq]
    ring
  have lower : (RoundingInterval.ofFinite mantissa scale).lower * denominator
      = 4 * (mantissa * unit) - slack mantissa scale * unit := by
    rw [← Nat.mul_assoc, ← Nat.sub_mul]
    exact scaled _
  have upper : (RoundingInterval.ofFinite mantissa scale).upper * denominator
      = 4 * (mantissa * unit) + 2 * unit := by
    rw [← Nat.mul_assoc, ← Nat.add_mul]
    exact scaled _
  have low := rounds.low
  have high := rounds.high
  have odd := rounds.odd
  rw [lower] at low odd
  rw [upper] at high odd
  refine ⟨by omega, high, fun isOdd => ?_⟩
  have := odd isOdd
  omega

/-- The bits at a scale, given what rounding leads to there. -/
theorem nearestBits_of_scale {numerator denominator mantissa scale : Nat}
    (scaled : (numerator <<< unitScale / denominator).log2 - 52 = scale)
    (rounded : roundQuotient (numerator <<< unitScale) (denominator <<< scale) = mantissa)
    (bounded : mantissa + scale <<< 52 < infinityBits) :
    nearestBits numerator denominator = mantissa + scale <<< 52 := by
  rw [nearestBits, scaled, rounded]
  exact Nat.min_eq_left (Nat.le_of_lt bounded)

theorem log2_quotient {units denominator : Nat} (exponent scale : Nat) (positive : 0 < denominator)
    (low : 2 ^ exponent * (denominator <<< scale) ≤ units)
    (high : units < 2 ^ (exponent + 1) * (denominator <<< scale)) :
    (units / denominator).log2 = exponent + scale := by
  have scaled (count : Nat) : 2 ^ count * (denominator <<< scale) = 2 ^ (count + scale) * denominator := by
    rw [Nat.shiftLeft_eq, Nat.pow_add]
    ring
  rw [scaled] at low high
  refine log2_eq_of_le ((Nat.le_div_iff_mul_le positive).2 low) ((Nat.div_lt_iff_lt_mul positive).2 ?_)
  rwa [Nat.add_right_comm]

section Bits

variable {numerator denominator mantissa scale : Nat}

theorem RoundsTo.unit_pos (rounds : RoundsTo numerator denominator mantissa scale) : 0 < denominator <<< scale := by
  rw [Nat.shiftLeft_eq]
  exact Nat.mul_pos rounds.positive (Nat.two_pow_pos scale)

theorem nearestBits_of_least (finite : IsFinite mantissa 0) (rounds : RoundsTo numerator denominator mantissa 0) :
    nearestBits numerator denominator = mantissa + 0 <<< 52 := by
  obtain ⟨low, high, odd⟩ := rounds.bounds
  have small : mantissa < 2 ^ 53 := finite.small
  have below := Nat.mul_le_mul_right (denominator <<< 0) (Nat.le_sub_one_of_lt small)
  have positive := rounds.positive
  refine nearestBits_of_scale ?_ ?_ finite.bounded
  · have fits : numerator <<< unitScale / denominator < 2 ^ 53 := by
      rw [Nat.div_lt_iff_lt_mul positive]
      simp only [Nat.shiftLeft_zero] at *
      omega
    have short : (numerator <<< unitScale / denominator).log2 < 53 := by
      by_cases zero : numerator <<< unitScale / denominator = 0
      · rw [zero]
        decide
      · exact (Nat.log2_lt zero).2 fits
    omega
  · have whole : slack mantissa 0 = 2 := by simp [slack]
    rw [whole] at low odd
    exact roundQuotient_eq rounds.unit_pos (by omega) (by omega) fun isOdd => by have := odd isOdd; omega

/-- A fraction that reaches the least mantissa of a scale is rounded at this scale. -/
theorem nearestBits_of_reaching (finite : IsFinite mantissa scale)
    (rounds : RoundsTo numerator denominator mantissa scale)
    (reaches : 2 ^ 52 * (denominator <<< scale) ≤ numerator <<< unitScale) :
    nearestBits numerator denominator = mantissa + scale <<< 52 := by
  obtain ⟨low, high, odd⟩ := rounds.bounds
  have small : mantissa < 2 ^ 53 := finite.small
  have below := Nat.mul_le_mul_right (denominator <<< scale) (Nat.le_sub_one_of_lt small)
  have unit_pos := rounds.unit_pos
  refine nearestBits_of_scale ?_ ?_ finite.bounded
  · rw [log2_quotient _ _ rounds.positive reaches (by omega), Nat.add_sub_cancel_left]
  · refine roundQuotient_eq unit_pos ?_ (by omega) fun isOdd => ?_
    · rw [slack] at low
      split_ifs at low with lowest
      · rw [lowest.1] at *
        omega
      · omega
    · have strict := odd isOdd
      rw [slack] at strict
      split_ifs at strict with lowest
      · rw [lowest.1] at isOdd
        exact absurd isOdd (by decide)
      · omega

/-- A fraction just below the least mantissa of a scale has a mantissa of one bit more at the scale below, which
carries. -/
theorem nearestBits_of_carrying {lesser : Nat} (finite : IsFinite mantissa (lesser + 1))
    (rounds : RoundsTo numerator denominator mantissa (lesser + 1))
    (short : numerator <<< unitScale < 2 ^ 52 * (denominator <<< (lesser + 1))) :
    nearestBits numerator denominator = mantissa + (lesser + 1) <<< 52 := by
  obtain ⟨low, high, -⟩ := rounds.bounds
  have unit_pos := rounds.unit_pos
  have normal : 2 ^ 52 ≤ mantissa := finite.normal (Nat.succ_pos lesser)
  have lowest : mantissa = 2 ^ 52 := by
    refine Nat.le_antisymm (Nat.le_of_not_lt fun higher => ?_) normal
    have := Nat.mul_le_mul_right (denominator <<< (lesser + 1)) (show 2 ^ 52 + 1 ≤ mantissa from higher)
    rw [slack] at low
    split_ifs at low <;> omega
  subst lowest
  have narrow : slack (2 ^ 52) (lesser + 1) = 1 := by simp [slack]
  have double : denominator <<< (lesser + 1) = 2 * (denominator <<< lesser) := by
    rw [Nat.shiftLeft_succ]
  have carried : 2 ^ 53 + lesser <<< 52 = 2 ^ 52 + (lesser + 1) <<< 52 := by
    simp only [Nat.shiftLeft_eq]
    ring
  rw [narrow] at low
  rw [← carried]
  refine nearestBits_of_scale ?_ ?_ (by rw [carried]; exact finite.bounded)
  · rw [log2_quotient 51 (lesser + 1) rounds.positive (by omega) (by omega)]
    omega
  · rw [double] at low high short unit_pos
    exact roundQuotient_eq (by omega) (by omega) (by omega) fun isOdd => absurd isOdd (by decide)

/-- What rounds to a number is rounded to its bits. -/
theorem nearestBits_eq (finite : IsFinite mantissa scale) (rounds : RoundsTo numerator denominator mantissa scale) :
    nearestBits numerator denominator = mantissa + scale <<< 52 := by
  cases scale with
  | zero => exact nearestBits_of_least finite rounds
  | succ lesser =>
    rcases Nat.lt_or_ge (numerator <<< unitScale) (2 ^ 52 * (denominator <<< (lesser + 1))) with short | reaches
    · exact nearestBits_of_carrying finite rounds short
    · exact nearestBits_of_reaching finite rounds reaches

end Bits

section Grid

variable {interval : RoundingInterval} {exponent : Int} {digits : Nat}

/-- By how much digits on a grid are multiplied to be counted in quarters of a unit; for grids of fractions the
other side is multiplied instead. -/
def gridStep (exponent : Int) : Nat := Nat.pow 10 exponent.toNat <<< (unitScale + 2)

def gridFactor (exponent : Int) : Nat := Nat.pow 10 (-exponent).toNat

theorem gridStep_pos (exponent : Int) : 0 < gridStep exponent := by
  rw [gridStep, Nat.shiftLeft_eq]
  exact Nat.mul_pos (Nat.pow_pos (by decide)) (Nat.two_pow_pos _)

theorem gridFactor_pos (exponent : Int) : 0 < gridFactor exponent := Nat.pow_pos (by decide)

theorem holds_of_onGrid? (chosen : interval.onGrid? exponent = some digits) :
    interval.holds (gridFactor exponent) digits (gridStep exponent) = true := by
  rw [RoundingInterval.onGrid?] at chosen
  split at chosen
  · rename_i below above
    rw [← Option.some.inj chosen]
    split_ifs
    · exact below
    · exact above
    · rcases Nat.mod_two_eq_zero_or_one
        (interval.value * Nat.pow 10 (-exponent).toNat / Nat.pow 10 exponent.toNat <<< (unitScale + 2)) with even | odd
      · rw [even]
        exact below
      · rw [odd]
        exact above
  · rename_i below _
    rw [← Option.some.inj chosen]
    exact below
  · rename_i _ above
    rw [← Option.some.inj chosen]
    exact above
  · cases chosen

/-- A grid finer than the upper half of the interval has a point there. -/
theorem onGrid?_isSome (below : interval.lower ≤ interval.value)
    (fine : interval.value * gridFactor exponent + gridStep exponent < interval.upper * gridFactor exponent) :
    (interval.onGrid? exponent).isSome := by
  have above : interval.holds (gridFactor exponent)
      (interval.value * gridFactor exponent / gridStep exponent + 1) (gridStep exponent) = true := by
    have split := Nat.div_add_mod (interval.value * gridFactor exponent) (gridStep exponent)
    have rest := Nat.mod_lt (interval.value * gridFactor exponent) (gridStep_pos exponent)
    have low := Nat.mul_le_mul_right (gridFactor exponent) below
    rw [Nat.mul_comm (gridStep exponent)] at split
    rw [RoundingInterval.holds, Nat.add_mul, Nat.one_mul]
    split_ifs <;> rw [decide_eq_true_eq] <;> constructor <;> omega
  rw [RoundingInterval.onGrid?]
  split
  · rfl
  · rfl
  · rfl
  · rename_i none
    exact absurd above (by rw [gridFactor, gridStep, none]; exact Bool.false_ne_true)

theorem onGrid?_firstGrid {tries last : Nat} (within : last < tries)
    (some : (interval.onGrid? (exponent - last)).isSome) :
    interval.onGrid? (interval.firstGrid tries exponent).2 = .some (interval.firstGrid tries exponent).1 ∧
      exponent - last ≤ (interval.firstGrid tries exponent).2 ∧ (interval.firstGrid tries exponent).2 ≤ exponent := by
  induction tries generalizing exponent last with
  | zero => omega
  | succ tries ih =>
    rw [RoundingInterval.firstGrid]
    split
    · rename_i found
      exact ⟨found, by omega, by omega⟩
    · rename_i missing
      cases last with
      | zero =>
        rw [show exponent - (0 : Nat) = exponent by omega, missing] at some
        cases some
      | succ last =>
        rw [show exponent - (last + 1 : Nat) = exponent - 1 - last by omega] at some
        obtain ⟨found, low, high⟩ := ih (Nat.lt_of_succ_lt_succ within) some
        exact ⟨found, by omega, by omega⟩

end Grid

/-- Powers of ten against powers of two: three digits are less than ten bits, and thirteen digits are more than
forty-three. -/
theorem ten_zpow_lt (digits bits : Int) (fewer : 100000 * digits ≤ 30103 * bits) (low : -1100 ≤ bits)
    (high : bits ≤ 1100) : (10 : ℚ) ^ (digits - 21) < 2 ^ (bits - 54) := by
  have tens (count : Nat) : ((10 : ℚ) ^ (digits - 21)) ^ count = (10 ^ count) ^ digits / (10 ^ 21) ^ count := by
    rw [← zpow_natCast, ← zpow_mul, sub_mul, zpow_sub₀ (by norm_num), mul_comm digits, zpow_mul, zpow_mul]
    norm_cast
  have twos (count : Nat) : ((2 : ℚ) ^ (bits - 54)) ^ count = 2 ^ ((bits - 54) * count) := by
    rw [← zpow_natCast, ← zpow_mul]
  have split (places : Nat) (count : Nat) : ((2 : ℚ) ^ places) ^ digits / (2 ^ 69) ^ count
      = 2 ^ (places * digits - 69 * count) := by
    rw [zpow_sub₀ (by norm_num), zpow_mul, zpow_mul]
    norm_cast
  have scale (count : Nat) : ((2 : ℚ) ^ 69) ^ count ≤ (10 ^ 21) ^ count :=
    pow_le_pow_left₀ (by norm_num) (by norm_num) count
  rcases Int.le_total 0 digits with positive | negative
  · refine lt_of_pow_lt_pow_left₀ 3 (by positivity) ?_
    rw [tens, twos]
    calc ((10 : ℚ) ^ 3) ^ digits / (10 ^ 21) ^ 3
        ≤ (2 ^ 10) ^ digits / (2 ^ 69) ^ 3 :=
          div_le_div₀ (by positivity) (zpow_le_zpow_left₀ positive (by norm_num) (by norm_num)) (by positivity)
            (scale 3)
      _ = 2 ^ (((10 : Nat) : Int) * digits - 69 * (3 : Nat)) := split 10 3
      _ < 2 ^ ((bits - 54) * (3 : Nat)) := zpow_lt_zpow_right₀ (by norm_num) (by push_cast; omega)
  · refine lt_of_pow_lt_pow_left₀ 13 (by positivity) ?_
    rw [tens, twos]
    have inverse : ((10 : ℚ) ^ 13) ^ digits ≤ (2 ^ 43) ^ digits := by
      obtain ⟨count, rfl⟩ : ∃ count : Nat, digits = -count := ⟨digits.natAbs, by omega⟩
      rw [zpow_neg, zpow_neg, zpow_natCast, zpow_natCast]
      exact inv_anti₀ (by positivity) (pow_le_pow_left₀ (by norm_num) (by norm_num) count)
    calc ((10 : ℚ) ^ 13) ^ digits / (10 ^ 21) ^ 13
        ≤ (2 ^ 43) ^ digits / (2 ^ 69) ^ 13 := div_le_div₀ (by positivity) inverse (by positivity) (scale 13)
      _ = 2 ^ (((43 : Nat) : Int) * digits - 69 * (13 : Nat)) := split 43 13
      _ < 2 ^ ((bits - 54) * (13 : Nat)) := zpow_lt_zpow_right₀ (by norm_num) (by push_cast; omega)

theorem gridStep_eq {exponent : Int} :
    (gridStep exponent : ℚ) = gridFactor exponent * 10 ^ exponent * 2 ^ (unitScale + 2) := by
  rw [gridStep, gridFactor, Nat.shiftLeft_eq, Nat.pow_eq, Nat.pow_eq]
  push_cast
  rcases Int.le_total 0 exponent with whole | fraction
  · obtain ⟨count, rfl⟩ := Int.eq_ofNat_of_zero_le whole
    simp
  · obtain ⟨count, rfl⟩ : ∃ count : Nat, exponent = -count := ⟨exponent.natAbs, by omega⟩
    simp

theorem gridStep_lt {mantissa scale : Nat} (finite : IsFinite mantissa scale) :
    let magnitude : Int := (mantissa.log2 + 1 + scale : Nat) - (unitScale : Int)
    gridStep (magnitude * 30103 / 100000 + 2 - 23)
      < (2 <<< scale) * gridFactor (magnitude * 30103 / 100000 + 2 - 23) := by
  intro magnitude
  have width : mantissa.log2 < 53 := (Nat.log2_lt (Nat.ne_of_gt finite.positive)).2 finite.small
  have scales : scale < 2047 := by
    have := finite.bounded
    simp only [infinityBits, Nat.shiftLeft_eq] at this
    omega
  have spread : magnitude = (mantissa.log2 + 1 + scale : Nat) - 1074 := rfl
  have fine := ten_zpow_lt (magnitude * 30103 / 100000) magnitude (by omega) (by omega)
    (by omega)
  rw [show magnitude * 30103 / 100000 + 2 - 23 = magnitude * 30103 / 100000 - 21 by omega]
  generalize magnitude * 30103 / 100000 - 21 = exponent at fine
  have factor : (0 : ℚ) < gridFactor exponent := by exact_mod_cast gridFactor_pos exponent
  have bits : (2 : ℚ) ^ (magnitude - 54) * 2 ^ (unitScale + 2) ≤ 2 ^ (scale + 1) := by
    rw [← zpow_natCast, ← zpow_natCast, ← zpow_add₀ (by norm_num)]
    exact zpow_le_zpow_right₀ (by norm_num) (by simp only [unitScale]; omega)
  have : (gridStep exponent : ℚ) < (2 <<< scale : Nat) * gridFactor exponent := by
    calc (gridStep exponent : ℚ) = gridFactor exponent * 10 ^ exponent * 2 ^ (unitScale + 2) := gridStep_eq
      _ < gridFactor exponent * 2 ^ (magnitude - 54) * 2 ^ (unitScale + 2) := by gcongr
      _ = gridFactor exponent * (2 ^ (magnitude - 54) * 2 ^ (unitScale + 2)) := by ring
      _ ≤ gridFactor exponent * 2 ^ (scale + 1) := by gcongr
      _ = (2 <<< scale : Nat) * gridFactor exponent := by
        rw [Nat.shiftLeft_eq]
        push_cast
        ring
  exact_mod_cast this

section Shortest

variable {mantissa scale : Nat}

theorem lower_le_value : (RoundingInterval.ofFinite mantissa scale).lower
    ≤ (RoundingInterval.ofFinite mantissa scale).value := by
  simp only [RoundingInterval.ofFinite, Nat.shiftLeft_eq]
  exact Nat.mul_le_mul_right _ (Nat.sub_le _ _)

theorem lower_pos (finite : IsFinite mantissa scale) : 0 < (RoundingInterval.ofFinite mantissa scale).lower := by
  have positive := finite.positive
  simp only [RoundingInterval.ofFinite, Nat.shiftLeft_eq]
  refine Nat.mul_pos ?_ (Nat.two_pow_pos scale)
  split <;> omega

theorem upper_eq : (RoundingInterval.ofFinite mantissa scale).upper
    = (RoundingInterval.ofFinite mantissa scale).value + 2 <<< scale := by
  simp only [RoundingInterval.ofFinite, Nat.shiftLeft_eq]
  ring

/-- The shortest decimal is on its grid, which is none of the extreme ones. -/
theorem shortestDecimal_spec (finite : IsFinite mantissa scale) :
    (RoundingInterval.ofFinite mantissa scale).holds (gridFactor (shortestDecimal mantissa scale).2)
        (shortestDecimal mantissa scale).1 (gridStep (shortestDecimal mantissa scale).2) = true ∧
      -400 ≤ (shortestDecimal mantissa scale).2 ∧ (shortestDecimal mantissa scale).2 ≤ 400 := by
  have fine := gridStep_lt finite
  have width : mantissa.log2 < 53 := (Nat.log2_lt (Nat.ne_of_gt finite.positive)).2 finite.small
  have scales : scale < 2047 := by
    have := finite.bounded
    simp only [infinityBits, Nat.shiftLeft_eq] at this
    omega
  have spread : (unitScale : Int) = 1074 := rfl
  have low : (RoundingInterval.ofFinite mantissa scale).lower ≤ _ := lower_le_value
  have reached := onGrid?_isSome low (by rw [upper_eq, Nat.add_mul]; exact Nat.add_lt_add_left fine _)
  obtain ⟨found, low, high⟩ := onGrid?_firstGrid (show 23 < 24 by decide) reached
  refine ⟨holds_of_onGrid? found, ?_, ?_⟩ <;> rw [shortestDecimal] <;> omega

theorem roundsTo_of_holds {numerator denominator digits : Nat} {exponent : Int} (positive : 0 < denominator)
    (holds : (RoundingInterval.ofFinite mantissa scale).holds (gridFactor exponent) digits (gridStep exponent) = true)
    (same : numerator * gridFactor exponent = digits * 10 ^ exponent.toNat * denominator) :
    RoundsTo numerator denominator mantissa scale := by
  have point : 4 * (numerator <<< unitScale) * gridFactor exponent = digits * gridStep exponent * denominator := by
    have quarters : 2 ^ (unitScale + 2) = 4 * 2 ^ unitScale := by rw [Nat.pow_add, Nat.mul_comm]
    calc 4 * (numerator <<< unitScale) * gridFactor exponent
        = numerator * gridFactor exponent * (4 * 2 ^ unitScale) := by rw [Nat.shiftLeft_eq]; ring
      _ = digits * (10 ^ exponent.toNat * 2 ^ (unitScale + 2)) * denominator := by rw [same, quarters]; ring
      _ = digits * gridStep exponent * denominator := by rw [gridStep, Nat.shiftLeft_eq]; rfl
  -- Both sides of each bound are multiplied by the denominator and divided by the factor of the grid.
  have above {bound : Nat} : bound * gridFactor exponent ≤ digits * gridStep exponent →
      bound * denominator ≤ 4 * (numerator <<< unitScale) := fun le => by
    refine Nat.le_of_mul_le_mul_right ?_ (gridFactor_pos exponent)
    rw [point, Nat.mul_right_comm]
    exact Nat.mul_le_mul_right denominator le
  have below {bound : Nat} : digits * gridStep exponent ≤ bound * gridFactor exponent →
      4 * (numerator <<< unitScale) ≤ bound * denominator := fun le => by
    refine Nat.le_of_mul_le_mul_right ?_ (gridFactor_pos exponent)
    rw [point, Nat.mul_right_comm bound]
    exact Nat.mul_le_mul_right denominator le
  have strictlyAbove {bound : Nat} : bound * gridFactor exponent < digits * gridStep exponent →
      bound * denominator < 4 * (numerator <<< unitScale) := fun lt => by
    refine Nat.lt_of_mul_lt_mul_right (a := gridFactor exponent) ?_
    rw [point, Nat.mul_right_comm]
    exact Nat.mul_lt_mul_of_pos_right lt positive
  have strictlyBelow {bound : Nat} : digits * gridStep exponent < bound * gridFactor exponent →
      4 * (numerator <<< unitScale) < bound * denominator := fun lt => by
    refine Nat.lt_of_mul_lt_mul_right (a := gridFactor exponent) ?_
    rw [point, Nat.mul_right_comm bound]
    exact Nat.mul_lt_mul_of_pos_right lt positive
  rw [RoundingInterval.holds] at holds
  have closed : (RoundingInterval.ofFinite mantissa scale).closed = decide (mantissa % 2 = 0) := rfl
  rw [closed] at holds
  by_cases even : mantissa % 2 = 0
  · simp only [even, decide_true, if_true, decide_eq_true_eq] at holds
    exact ⟨positive, above holds.1, below holds.2, fun odd => by omega⟩
  · simp only [even, decide_false, Bool.false_eq_true, if_false, decide_eq_true_eq] at holds
    have low := strictlyAbove holds.1
    have high := strictlyBelow holds.2
    exact ⟨positive, Nat.le_of_lt low, Nat.le_of_lt high, fun _ => ⟨low, high⟩⟩

/-- A decimal of the value of a finite number is that number, wherever its point is. -/
theorem ofDecimal_shortest {negative : Bool} (finite : IsFinite mantissa scale) (shift : Nat) :
    ofDecimal negative ((shortestDecimal mantissa scale).1 * 10 ^ shift) ((shortestDecimal mantissa scale).2 - shift)
      = .ofBits (.ofNat (mantissa + scale <<< 52 + if negative then 1 <<< 63 else 0)) := by
  obtain ⟨holds, low, high⟩ := shortestDecimal_spec finite
  generalize (shortestDecimal mantissa scale).1 = digits at *
  generalize (shortestDecimal mantissa scale).2 = exponent at *
  have positive : 0 < digits := by
    refine Nat.pos_of_ne_zero fun zero => ?_
    have reached :
        (RoundingInterval.ofFinite mantissa scale).lower * gridFactor exponent ≤ digits * gridStep exponent := by
      rw [RoundingInterval.holds] at holds
      split at holds <;> simp only [decide_eq_true_eq] at holds
      · exact holds.1
      · exact Nat.le_of_lt holds.1
    rw [zero, Nat.zero_mul] at reached
    have := Nat.mul_pos (lower_pos finite) (gridFactor_pos exponent)
    omega
  have power : 0 < digits * 10 ^ shift := by positivity
  have large : shift ≤ (digits * 10 ^ shift).log2 := by
    rw [Nat.le_log2 (Nat.ne_of_gt power)]
    calc 2 ^ shift ≤ 10 ^ shift := Nat.pow_le_pow_left (by decide) shift
      _ ≤ digits * 10 ^ shift := Nat.le_mul_of_pos_left _ positive
  rw [ofDecimal, if_neg (Nat.ne_of_gt power), if_neg (by omega), if_neg (by omega)]
  split
  · rename_i whole
    rw [ofFraction, nearestBits_eq finite (roundsTo_of_holds Nat.one_pos holds ?_)]
    have whole_exponent : exponent.toNat = shift + (exponent - shift).toNat := by omega
    rw [gridFactor, show (-exponent).toNat = 0 by omega, whole_exponent, Nat.pow_eq, Nat.pow_eq, Nat.pow_add]
    ring
  · rename_i fraction
    rw [ofFraction, Nat.pow_eq,
      nearestBits_eq finite (roundsTo_of_holds (Nat.pow_pos (show 0 < 10 by decide)) holds ?_)]
    have same : shift + (-exponent).toNat = exponent.toNat + (-(exponent - shift)).toNat := by omega
    rw [gridFactor, Nat.pow_eq, Nat.mul_assoc, ← Nat.pow_add, same, Nat.pow_add, Nat.mul_assoc]

end Shortest

theorem toBits_of_finite {x : Float} {negative : Bool} {mantissa scale : Nat}
    (parts : Binary.ofFloat x = .finite negative mantissa scale) :
    x.toBits.toNat = mantissa + scale <<< 52 + (if negative then 1 <<< 63 else 0) ∧
      (mantissa = 0 → scale = 0) ∧ (mantissa ≠ 0 → IsFinite mantissa scale) := by
  have bounded : x.toBits.toNat < 2 ^ 64 := x.toBits.toNat_lt
  rw [Binary.ofFloat] at parts
  simp only [Nat.shiftRight_eq_div_pow, Nat.shiftLeft_eq] at parts
  generalize x.toBits.toNat = bits at parts bounded
  have sign : (if decide (1 * 2 ^ 63 ≤ bits) = true then 1 <<< 63 else 0) = bits / 2 ^ 63 * 2 ^ 63 := by
    simp only [decide_eq_true_eq, Nat.shiftLeft_eq]
    split <;> omega
  split at parts
  · split at parts <;> cases parts
  · split at parts <;> (cases parts; rw [sign])
    · refine ⟨by omega, fun _ => rfl, fun nonzero => ⟨by omega, ?_, fun scaled => absurd scaled (by decide), ?_⟩⟩
      · rw [Nat.shiftLeft_eq]
        omega
      · rw [infinityBits, Nat.shiftLeft_eq, Nat.shiftLeft_eq]
        omega
    · refine ⟨?_, by omega, fun nonzero => ⟨by omega, ?_, fun scaled => ?_, ?_⟩⟩
      · rw [Nat.shiftLeft_eq]
        omega
      · rw [Nat.shiftLeft_eq]
        omega
      · rw [Nat.shiftLeft_eq]
        omega
      · rw [infinityBits, Nat.shiftLeft_eq, Nat.shiftLeft_eq]
        omega

theorem ofFloat_of_isFinite {x : Float} (finite : x.isFinite = true) :
    ∃ negative mantissa scale, Binary.ofFloat x = .finite negative mantissa scale := by
  have exponent : x.toBits.toNat >>> 52 % 1 <<< 11 ≠ 2047 := by
    intro full
    have unpacked : @Float.Model.UnpackedFloat.unpackExponent .binary64 x.toModel.toBits.toBitVec
        = -BitVec.ofNat Float.Model.Format.binary64.exponentBits 1 := by
      refine BitVec.eq_of_toNat_eq ?_
      rw [Float.Model.UnpackedFloat.unpackExponent]
      have full : x.toModel.toBits.toNat >>> 52 % 1 <<< 11 = 2047 := full
      simpa using full
    rw [Float.isFinite, Float.Model.isFinite, Float.Model.unpack, Float.Model.UnpackedFloat.unpack] at finite
    simp only [unpacked, if_true] at finite
    split at finite <;> simp [Float.Model.UnpackedFloat.isFinite] at finite
  rw [Binary.ofFloat]
  simp only [exponent, if_false]
  split
  · exact ⟨_, _, _, rfl⟩
  · exact ⟨_, _, _, rfl⟩

theorem ofDecimal_of_parts {x : Float} {negative : Bool} {mantissa scale : Nat}
    (parts : Binary.ofFloat x = .finite negative mantissa scale) (nonzero : mantissa ≠ 0) (shift : Nat) :
    ofDecimal negative ((shortestDecimal mantissa scale).1 * 10 ^ shift) ((shortestDecimal mantissa scale).2 - shift)
      = x := by
  obtain ⟨bits, -, finite⟩ := toBits_of_finite parts
  rw [ofDecimal_shortest (finite nonzero), ← bits, UInt64.ofNat_toNat, Float.ofBits_toBits]

theorem ofDecimal_zero {x : Float} {negative : Bool} {scale : Nat}
    (parts : Binary.ofFloat x = .finite negative 0 scale) (exponent : Int) : ofDecimal negative 0 exponent = x := by
  obtain ⟨bits, least, -⟩ := toBits_of_finite parts
  rw [least rfl] at bits
  have zero : nearestBits 0 1 = 0 + 0 <<< 52 := by decide
  rw [ofDecimal, if_pos rfl, ofFraction, zero, ← bits, UInt64.ofNat_toNat, Float.ofBits_toBits]

end Progression.Number
