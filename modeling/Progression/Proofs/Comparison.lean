import Progression.Proofs.Rounding

namespace Progression.Number

open Float.Model

/-- The sign of a number, by whether it is negative. -/
def signOf (negative : Bool) : UnpackedFloat.Sign := if negative then .negative else .positive

section Fields

variable {bits : BitVec 64}

theorem toNat_unpackMantissa : (@UnpackedFloat.unpackMantissa .binary64 bits).toNat = bits.toNat % 1 <<< 52 := by
  simp [UnpackedFloat.unpackMantissa]

theorem toNat_unpackExponent :
    (@UnpackedFloat.unpackExponent .binary64 bits).toNat = bits.toNat >>> 52 % 1 <<< 11 := by
  simp [UnpackedFloat.unpackExponent]

theorem ofBitVec_unpackSign :
    UnpackedFloat.Sign.ofBitVec (@UnpackedFloat.unpackSign .binary64 bits)
      = signOf (decide (1 <<< 63 ≤ bits.toNat)) := by
  have value : (@UnpackedFloat.unpackSign .binary64 bits).toNat = bits.toNat / 2 ^ 63 % 2 := by
    simp [UnpackedFloat.unpackSign, Nat.shiftRight_eq_div_pow]
  have bound := bits.isLt
  have zero : @UnpackedFloat.unpackSign .binary64 bits = 0#1 ↔ ¬ 1 <<< 63 ≤ bits.toNat := by
    rw [← BitVec.toNat_inj, value, Nat.shiftLeft_eq, BitVec.toNat_ofNat]
    omega
  rw [UnpackedFloat.Sign.ofBitVec, signOf]
  by_cases high : 1 <<< 63 ≤ bits.toNat
  · rw [if_neg (fun same => zero.1 same high), decide_eq_true high, if_pos rfl]
  · rw [if_pos (zero.2 high), decide_eq_false high]
    rfl

end Fields

theorem unpack_of_finite {x : Float} {negative : Bool} {mantissa scale : Nat}
    (parts : Binary.ofFloat x = .finite negative mantissa scale) :
    x.toModel.unpack = if nonzero : 0 < mantissa then .finite (signOf negative) mantissa (scale - 1074) nonzero
      else .zero (signOf negative) := by
  have same : x.toBits.toNat = x.toModel.toBits.toBitVec.toNat := rfl
  rw [Binary.ofFloat, same] at parts
  rw [Float.Model.unpack, UnpackedFloat.unpack]
  generalize x.toModel.toBits.toBitVec = bits at parts
  simp only [← toNat_unpackMantissa, ← toNat_unpackExponent] at parts
  simp only [ofBitVec_unpackSign]
  have full : @UnpackedFloat.unpackExponent .binary64 bits = -1#11 ↔
      (@UnpackedFloat.unpackExponent .binary64 bits).toNat = 2047 := by
    rw [← BitVec.toNat_inj]
    rfl
  have least : @UnpackedFloat.unpackExponent .binary64 bits = 0#11 ↔
      (@UnpackedFloat.unpackExponent .binary64 bits).toNat = 0 := by
    rw [← BitVec.toNat_inj]
    rfl
  split at parts
  · split at parts <;> cases parts
  · rename_i finite
    rw [if_neg (full.not.2 finite)]
    split at parts
    · rename_i subnormal
      cases parts
      rw [if_pos (least.2 subnormal), subnormal]
      by_cases zero : @UnpackedFloat.unpackMantissa .binary64 bits = 0#52
      · rw [dif_pos zero, zero, dif_neg (by decide)]
      · rw [dif_neg zero, dif_pos (Nat.pos_of_ne_zero fun none => zero (BitVec.eq_of_toNat_eq none))]
        rfl
    · rename_i normal
      cases parts
      have mantissa : (1#1 ++ @UnpackedFloat.unpackMantissa .binary64 bits).toNat
          = 1 <<< 52 + (@UnpackedFloat.unpackMantissa .binary64 bits).toNat := by
        rw [BitVec.toNat_append]
        exact (Nat.shiftLeft_add_eq_or_of_lt (BitVec.isLt _) 1).symm
      have bias : (Format.binary64.exponentBias : Int) = 1023 := rfl
      rw [if_neg (least.not.2 normal), dif_pos (Nat.add_pos_left (by decide) _)]
      congr 1
      omega

/-- A zero, of either sign. -/
def IsZero (x : Float) : Prop := x = 0.0 ∨ x = -0.0

/-- The same number, or two zeros. -/
def AlikeNumbers (x y : Float) : Prop := x = y ∨ IsZero x ∧ IsZero y

theorem AlikeNumbers.symm {x y : Float} (alike : AlikeNumbers x y) : AlikeNumbers y x :=
  alike.imp Eq.symm And.symm

theorem not_isZero_of_pos {x : Float} (positive : 0 < x) : ¬ IsZero x := by
  rintro (rfl | rfl) <;> revert positive <;> decide +kernel

theorem AlikeNumbers.eq_iff {x y : Float} (alike : AlikeNumbers x y) :
    x = y ↔ ¬ (x = 0.0 ∧ y = -0.0 ∨ x = -0.0 ∧ y = 0.0) := by
  have different : (0.0 : Float) ≠ -0.0 := by decide +kernel
  constructor
  · rintro rfl (⟨rfl, same⟩ | ⟨rfl, same⟩)
    · exact different same
    · exact different same.symm
  · intro signs
    rcases alike with same | ⟨rfl | rfl, rfl | rfl⟩
    · exact same
    · rfl
    · exact absurd (.inl ⟨rfl, rfl⟩) signs
    · exact absurd (.inr ⟨rfl, rfl⟩) signs
    · rfl

theorem isZero_of_parts {x : Float} {negative : Bool} {scale : Nat}
    (parts : Binary.ofFloat x = .finite negative 0 scale) : IsZero x := by
  have zero := ofDecimal_zero parts 0
  cases negative with
  | false => exact .inl (zero.symm.trans (by decide +kernel))
  | true => exact .inr (zero.symm.trans (by decide +kernel))

theorem eq_of_parts {x y : Float} {negative : Bool} {mantissa scale : Nat}
    (parts : Binary.ofFloat x = .finite negative mantissa scale)
    (same : Binary.ofFloat y = .finite negative mantissa scale) : x = y := by
  have bits : x.toBits = y.toBits :=
    UInt64.toNat_inj.1 ((toBits_of_finite parts).1.trans (toBits_of_finite same).1.symm)
  rw [← Float.ofBits_toBits x, bits, Float.ofBits_toBits]

/-- Finite numbers that compare as equal are the same, unless they are zeros. -/
theorem alikeNumbers_of_beq {x y : Float} (finite : x.isFinite = true) (otherFinite : y.isFinite = true)
    (same : (x == y) = true) : AlikeNumbers x y := by
  obtain ⟨negative, mantissa, scale, parts⟩ := ofFloat_of_isFinite finite
  obtain ⟨otherNegative, otherMantissa, otherScale, otherParts⟩ := ofFloat_of_isFinite otherFinite
  have compared : x.toModel.unpack.compare y.toModel.unpack = some .eq := eq_of_beq same
  rw [unpack_of_finite parts, unpack_of_finite otherParts] at compared
  by_cases nonzero : 0 < mantissa
  · by_cases otherNonzero : 0 < otherMantissa
    · left
      rw [dif_pos nonzero, dif_pos otherNonzero] at compared
      have sign : negative = otherNegative ∧ scale = otherScale ∧ mantissa = otherMantissa := by
        cases negative <;> cases otherNegative <;>
          simp [signOf, UnpackedFloat.compare, Ordering.then_eq_eq] at compared ⊢
        all_goals omega
      obtain ⟨rfl, rfl, rfl⟩ := sign
      exact eq_of_parts parts otherParts
    · rw [dif_pos nonzero, dif_neg otherNonzero] at compared
      cases negative <;> cases compared
  · by_cases otherNonzero : 0 < otherMantissa
    · rw [dif_neg nonzero, dif_pos otherNonzero] at compared
      cases otherNegative <;> cases compared
    · obtain rfl := Nat.eq_zero_of_not_pos nonzero
      obtain rfl := Nat.eq_zero_of_not_pos otherNonzero
      exact .inr ⟨isZero_of_parts parts, isZero_of_parts otherParts⟩

/-- A number whose neighbouring integers are one is this integer. -/
theorem shift_eq_of_whole {mantissa scale : Nat} (whole : wholeAbove mantissa scale = wholeBelow mantissa scale) :
    wholeBelow mantissa scale <<< unitScale = mantissa <<< scale := by
  rw [wholeAbove] at whole
  rw [wholeBelow] at whole ⊢
  simp only [Nat.shiftLeft_eq, Nat.shiftRight_eq_div_pow] at whole ⊢
  split
  · rename_i large
    rw [Nat.mul_assoc, ← Nat.pow_add, Nat.sub_add_cancel large]
  · rename_i small
    rw [if_neg small] at whole
    have exact : mantissa / 2 ^ (unitScale - scale) * 2 ^ (unitScale - scale) = mantissa := by
      by_contra inexact
      rw [if_neg (by tauto)] at whole
      omega
    have total : 2 ^ unitScale = 2 ^ (unitScale - scale) * 2 ^ scale := by
      rw [← Nat.pow_add, Nat.sub_add_cancel (by omega)]
    rw [total, ← Nat.mul_assoc, exact]

theorem eqInt_eq_true {x : Float} {n : Int} {negative : Bool} {mantissa scale : Nat}
    (parts : Binary.ofFloat x = .finite negative mantissa scale) (same : eqInt x n = true) :
    n.natAbs <<< unitScale = mantissa <<< scale ∧ (n ≠ 0 → (n < 0 ↔ negative = true)) := by
  rw [eqInt, parts] at same
  simp only [Bool.and_eq_true, beq_iff_eq] at same
  obtain ⟨floor, ceiling⟩ := same
  have whole : wholeAbove mantissa scale = wholeBelow mantissa scale ∧ n.natAbs = wholeBelow mantissa scale ∧
      (n ≠ 0 → (n < 0 ↔ negative = true)) := by
    cases negative with
    | false =>
      simp only [floorOf, ceilOf, Bool.false_eq_true, if_false] at floor ceiling
      refine ⟨by omega, by omega, fun _ => ⟨fun below => by omega, nofun⟩⟩
    | true =>
      simp only [floorOf, ceilOf, if_true] at floor ceiling
      refine ⟨by omega, by omega, fun nonzero => ⟨fun _ => rfl, fun _ => by omega⟩⟩
  obtain ⟨whole, magnitude, sign⟩ := whole
  exact ⟨magnitude ▸ shift_eq_of_whole whole, sign⟩

theorem roundsTo_self {n mantissa scale : Nat} (finite : IsFinite mantissa scale)
    (same : n <<< unitScale = mantissa <<< scale) : RoundsTo n 1 mantissa scale := by
  have below : (RoundingInterval.ofFinite mantissa scale).lower < 4 * (mantissa <<< scale) := by
    have positive := finite.positive
    have shift := Nat.two_pow_pos scale
    rw [RoundingInterval.ofFinite]
    simp only [Nat.shiftLeft_eq]
    rw [← Nat.mul_assoc]
    refine Nat.mul_lt_mul_of_pos_right ?_ shift
    split <;> omega
  have above : 4 * (mantissa <<< scale) < (RoundingInterval.ofFinite mantissa scale).upper := by
    have shift := Nat.two_pow_pos scale
    rw [RoundingInterval.ofFinite]
    simp only [Nat.shiftLeft_eq]
    rw [← Nat.mul_assoc]
    exact Nat.mul_lt_mul_of_pos_right (by omega) shift
  refine ⟨Nat.one_pos, ?_, ?_, fun _ => ?_⟩ <;> rw [same] <;> simp only [Nat.mul_one]
  · exact below.le
  · exact above.le
  · exact ⟨below, above⟩

theorem alikeNumbers_of_eqInt {x y : Float} {n : Int} (finite : x.isFinite = true) (same : eqInt x n = true)
    (denotes : ofInt? n = some y) : AlikeNumbers x y := by
  obtain ⟨negative, mantissa, scale, parts⟩ := ofFloat_of_isFinite finite
  obtain ⟨magnitude, sign⟩ := eqInt_eq_true parts same
  obtain ⟨bits, -, normal⟩ := toBits_of_finite parts
  rw [ofInt?] at denotes
  split at denotes
  · cases denotes
    by_cases zero : mantissa = 0
    · subst zero
      have none : n = 0 := by
        rw [Nat.zero_shiftLeft, Nat.shiftLeft_eq] at magnitude
        have positive := Nat.two_pow_pos unitScale
        rcases Nat.mul_eq_zero.1 magnitude with absent | impossible
        · exact Int.natAbs_eq_zero.1 absent
        · omega
      subst none
      exact .inr ⟨isZero_of_parts parts, .inl (by decide +kernel)⟩
    · left
      have nonzero : n ≠ 0 := by
        rintro rfl
        rw [Int.natAbs_zero, Nat.zero_shiftLeft, eq_comm, Nat.shiftLeft_eq] at magnitude
        have positive := Nat.two_pow_pos scale
        rcases Nat.mul_eq_zero.1 magnitude with absent | impossible
        · exact zero absent
        · omega
      rw [nearestBits_eq (normal zero) (roundsTo_self (normal zero) magnitude)]
      have signs : (if n < 0 then 1 <<< 63 else 0) = if negative = true then 1 <<< 63 else 0 :=
        if_congr (sign nonzero) rfl rfl
      rw [signs, ← bits, UInt64.ofNat_toNat, Float.ofBits_toBits]
  · cases denotes

end Progression.Number
