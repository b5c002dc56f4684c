import Progression.Formula.Basic
import Progression.Proofs.Floors
import Progression.Proofs.Outcome
import Progression.Proofs.Search

namespace Progression

open Curve

theorem exponentialFloor_le_maxXp {baseXp exponent : Float} {level : Nat} {floor : Int}
    (computed : exponentialFloor baseXp exponent level = .ok floor) : floor ≤ maxXp :=
  (clampFloor?_mem (elim_eq_ok.1 computed)).2

theorem expressionFloor_le_maxXp {source : String} {term : Expression.Term} {level : Nat} {floor : Int}
    (computed : expressionFloor source term level = .ok floor) : floor ≤ maxXp := by
  obtain ⟨_, _, computed⟩ := bind_eq_ok.1 computed
  obtain ⟨_, _, computed⟩ := bind_eq_ok.1 computed
  exact (clampFloor?_mem (elim_eq_ok.1 computed)).2

namespace Linear

variable {formula : Linear} {level xp : Int}

theorem xpForLevel_of_le_one (low : level ≤ 1) : formula.xpForLevel level = 0 := by
  rw [xpForLevel, if_pos low]

theorem xpForLevel_past (past : formula.maxLevel < level) : formula.xpForLevel level = maxXp := by
  have positive := formula.maxLevel_pos
  rw [xpForLevel, if_neg (by omega), if_pos past]

theorem xpPerLevel_mul_le_maxXp (within : level ≤ formula.maxLevel) :
    (formula.xpPerLevel : Int) * (level - 1) ≤ maxXp := by
  have positive := formula.maxLevel_pos
  calc (formula.xpPerLevel : Int) * (level - 1)
      ≤ formula.xpPerLevel * ((formula.maxLevel - 1 : Nat) : Int) :=
        mul_le_mul_of_nonneg_left (by omega) (Int.natCast_nonneg _)
    _ ≤ maxXp := by exact_mod_cast formula.inRange

theorem xpForLevel_of_mem (first : 1 ≤ level) (within : level ≤ formula.maxLevel) :
    formula.xpForLevel level = formula.xpPerLevel * (level - 1) := by
  rcases Int.le_iff_lt_or_eq.1 first with above | same
  · rw [xpForLevel, if_neg (by omega), if_neg (by omega), min_eq_left (xpPerLevel_mul_le_maxXp within)]
  · subst same
    rw [xpForLevel_of_le_one le_rfl, sub_self, mul_zero]

theorem xpForLevel_le_maxXp : formula.xpForLevel level ≤ maxXp := by
  unfold xpForLevel
  split
  · decide
  · split
    · exact le_rfl
    · exact min_le_right _ _

theorem xpForLevel_monotone : Monotone formula.xpForLevel := by
  refine monotone_int_of_le_succ fun level => ?_
  rcases lt_or_ge level 1 with low | first
  · rw [xpForLevel_of_le_one (by omega), xpForLevel_of_le_one (by omega)]
  · rcases lt_or_ge level formula.maxLevel with below | reached
    · rw [xpForLevel_of_mem first below.le, xpForLevel_of_mem (by omega) below]
      exact mul_le_mul_of_nonneg_left (by omega) (Int.natCast_nonneg _)
    · rw [xpForLevel_past (Int.lt_add_one_of_le reached)]
      exact xpForLevel_le_maxXp

theorem xpForLevel_strictMonoOn (costs : formula.xpPerLevel ≠ 0) :
    StrictMonoOn formula.xpForLevel (Set.Icc 1 (formula.maxLevel : Int)) := by
  intro lower lowerMem upper upperMem rises
  rw [xpForLevel_of_mem lowerMem.1 lowerMem.2, xpForLevel_of_mem upperMem.1 upperMem.2]
  exact mul_lt_mul_of_pos_left (by omega) (by omega)

theorem xpForLevel_le_iff {other : Nat} (costs : formula.xpPerLevel ≠ 0) (enough : 0 ≤ xp)
    (first : 1 ≤ other) (within : other ≤ formula.maxLevel) :
    formula.xpForLevel other ≤ xp ↔ other ≤ 1 + xp.toNat / formula.xpPerLevel := by
  obtain ⟨total, rfl⟩ := Int.eq_ofNat_of_zero_le enough
  obtain ⟨steps, rfl⟩ := Nat.exists_eq_add_of_le first
  have floor : formula.xpForLevel (1 + steps : Nat) = (steps * formula.xpPerLevel : Nat) := by
    rw [xpForLevel_of_mem (by omega) (by omega), Nat.mul_comm]
    push_cast
    rw [add_sub_cancel_left]
  rw [floor, Int.toNat_natCast, Nat.cast_le, ← Nat.le_div_iff_mul_le (Nat.pos_of_ne_zero costs)]
  exact (Nat.add_le_add_iff_left).symm

theorem crossing_levelForXp (enough : 0 ≤ xp) :
    Crossing (fun level => formula.xpForLevel level ≤ xp) formula.maxLevel (formula.levelForXp xp) := by
  have positive := formula.maxLevel_pos
  rw [levelForXp, if_neg (by omega)]
  by_cases free : formula.xpPerLevel = 0
  · rw [if_pos free]
    have affords : formula.xpForLevel formula.maxLevel ≤ xp := by
      rw [xpForLevel_of_mem (by omega) le_rfl, free, Nat.cast_zero, zero_mul]
      exact enough
    exact ⟨positive, le_rfl, .inr (decide_eq_true affords), .inl rfl⟩
  · rw [if_neg free]
    have affordable {other : Nat} (first : 1 ≤ other) (within : other ≤ formula.maxLevel) :=
      xpForLevel_le_iff free enough first within
    generalize xp.toNat / formula.xpPerLevel = quotient at affordable ⊢
    refine ⟨by omega, min_le_left _ _, .inr ?_, ?_⟩
    · exact decide_eq_true ((affordable (by omega) (min_le_left _ _)).2 (min_le_right _ _))
    · rcases Nat.lt_or_ge (1 + quotient) formula.maxLevel with below | reached
      · rw [min_eq_right below.le]
        refine .inr (decide_eq_false fun affords => ?_)
        have level := (affordable (by omega) below).1 affords
        omega
      · exact .inl (min_eq_left reached)

end Linear

namespace LevelTable

theorem make?_self (levels : LevelTable) : make? levels.floors levels.source = .ok levels := by
  rw [make?, dif_pos levels.nonempty, dif_pos levels.first]
  split
  · rfl
  · rename_i failed
    cases failed.symm.trans levels.checked

variable {table : LevelTable} {level xp : Int}

theorem xpForLevel_eq_floorAt (within : level ≤ table.floors.size) :
    table.xpForLevel level
      = floorAt (fun level => .ok (listedFloor table.floors level)) table.floors.size table.checked level := by
  rcases le_or_gt level 1 with low | above
  · rw [floorAt_of_le_one _ low, xpForLevel, if_pos low]
  · have computed := floor?_eq_floorAt table.checked above within
    rw [xpForLevel, if_neg (by omega), maxLevel, Nat.min_eq_left (by omega)]
    exact Except.ok.inj computed

theorem xpForLevel_natCast {listed : Nat} (first : 1 ≤ listed) (within : listed ≤ table.floors.size) :
    table.xpForLevel listed = listedFloor table.floors listed := by
  rcases Nat.eq_or_lt_of_le first with lowest | above
  · subst lowest
    rw [xpForLevel, if_pos (by omega), table.first]
  · rw [xpForLevel, if_neg (by omega), maxLevel, Int.toNat_natCast, Nat.min_eq_left within]

theorem xpForLevel_past (past : table.floors.size ≤ level) :
    table.xpForLevel level = listedFloor table.floors table.floors.size := by
  have positive := table.nonempty
  rcases le_or_gt level 1 with low | above
  · have single : table.floors.size = 1 := by omega
    rw [xpForLevel, if_pos low, single, table.first]
  · rw [xpForLevel, if_neg (by omega), maxLevel, Nat.min_eq_right (by omega)]

theorem xpForLevel_strictMonoOn : StrictMonoOn table.xpForLevel (Set.Icc 1 (table.floors.size : Int)) := by
  intro lower lowerMem upper upperMem rises
  rw [xpForLevel_eq_floorAt lowerMem.2, xpForLevel_eq_floorAt upperMem.2]
  exact floorAt_strictMonoOn _ lowerMem upperMem rises

theorem xpForLevel_monotone : Monotone table.xpForLevel := by
  refine monotone_int_of_le_succ fun level => ?_
  rcases lt_or_ge level 1 with low | first
  · rw [xpForLevel, if_pos (by omega), xpForLevel, if_pos (by omega)]
  · rcases lt_or_ge level table.floors.size with below | reached
    · exact (xpForLevel_strictMonoOn ⟨first, below.le⟩ ⟨by omega, below⟩ (by omega)).le
    · rw [xpForLevel_past reached, xpForLevel_past (by omega)]

theorem crossing_levelForXp (enough : 0 ≤ xp) :
    Crossing (fun level => table.xpForLevel level ≤ xp) table.floors.size (table.levelForXp xp) := by
  have whole : Bracket (fun level => listedFloor table.floors level ≤ xp) table.floors.size 1
      (table.floors.size + 1) :=
    ⟨le_rfl, table.nonempty, Nat.lt_succ_of_le table.nonempty, .inl rfl, .inl (Nat.lt_succ_self _)⟩
  have found := crossing_bisect whole le_rfl
  rw [levelForXp, if_neg (by omega)]
  exact found.congr fun level first within => by rw [xpForLevel_natCast first within]

end LevelTable

namespace Formula

variable (formula : Formula) {level xp : Int}

theorem maxLevel_pos : 1 ≤ formula.maxLevel := by
  cases formula with
  | exponential formula => exact formula.maxLevel_pos
  | linear formula => exact formula.maxLevel_pos
  | table table => exact table.nonempty
  | custom formula => exact formula.maxLevel_pos

/-- Whatever its kind, a formula finds a level at which affordable levels end. -/
theorem crossing_levelForXp (enough : 0 ≤ xp) :
    Crossing (fun level => formula.xpForLevel level ≤ xp) formula.maxLevel (formula.levelForXp xp) := by
  cases formula with
  | exponential formula => exact crossing_search formula.maxLevel_pos enough
  | linear formula => exact Linear.crossing_levelForXp enough
  | table table => exact LevelTable.crossing_levelForXp enough
  | custom formula => exact crossing_search formula.maxLevel_pos enough

theorem levelForXp_of_neg (negative : xp < 0) : formula.levelForXp xp = 1 := by
  cases formula with
  | exponential formula => exact search_of_neg negative
  | linear formula => exact if_pos negative
  | table table => exact if_pos negative
  | custom formula => exact search_of_neg negative

theorem xpForLevel_of_le_one (low : level ≤ 1) : formula.xpForLevel level = 0 := by
  cases formula with
  | exponential formula => exact floorAt_of_le_one formula.checked low
  | linear formula => exact if_pos low
  | table table => exact if_pos low
  | custom formula => exact floorAt_of_le_one formula.checked low

theorem xpForLevel_monotone : Monotone formula.xpForLevel := by
  cases formula with
  | exponential formula =>
    exact floorAt_monotone formula.checked formula.maxLevel_pos fun _ _ computed => exponentialFloor_le_maxXp computed
  | linear formula => exact Linear.xpForLevel_monotone
  | table table => exact LevelTable.xpForLevel_monotone
  | custom formula =>
    exact floorAt_monotone formula.checked formula.maxLevel_pos fun _ _ computed => expressionFloor_le_maxXp computed

theorem levelForXp_pos : 1 ≤ formula.levelForXp xp := by
  rcases lt_or_ge xp 0 with negative | enough
  · rw [formula.levelForXp_of_neg negative]
  · exact (formula.crossing_levelForXp enough).first

theorem levelForXp_le_maxLevel : formula.levelForXp xp ≤ formula.maxLevel := by
  rcases lt_or_ge xp 0 with negative | enough
  · rw [formula.levelForXp_of_neg negative]
    exact formula.maxLevel_pos
  · exact (formula.crossing_levelForXp enough).last

/-- The level that XP affords is the greatest one up to the top whose floor is affordable. -/
theorem isGreatest_levelForXp (enough : 0 ≤ xp) :
    IsGreatest { level : Int | 1 ≤ level ∧ level ≤ formula.maxLevel ∧ formula.xpForLevel level ≤ xp }
      (formula.levelForXp xp) := by
  have free : formula.xpForLevel 1 ≤ xp := by
    rw [formula.xpForLevel_of_le_one le_rfl]
    exact enough
  exact (formula.crossing_levelForXp enough).isGreatest (formula.xpForLevel_monotone.monotoneOn _) free

theorem xpForLevel_le_iff (enough : 0 ≤ xp) (first : 1 ≤ level) (last : level ≤ formula.maxLevel) :
    formula.xpForLevel level ≤ xp ↔ level ≤ formula.levelForXp xp := by
  have greatest := formula.isGreatest_levelForXp enough
  constructor
  · intro affordable
    exact greatest.2 ⟨first, last, affordable⟩
  · intro below
    exact (formula.xpForLevel_monotone below).trans greatest.1.2.2

/-- However a formula finds levels, it finds those that a search over its floors finds. -/
theorem levelForXp_eq_search :
    formula.levelForXp xp = search (fun level => formula.xpForLevel level) xp formula.maxLevel := by
  rcases lt_or_ge xp 0 with negative | enough
  · rw [formula.levelForXp_of_neg negative, search_of_neg negative]
  · have free : formula.xpForLevel 1 ≤ xp := by
      rw [formula.xpForLevel_of_le_one le_rfl]
      exact enough
    have searched : Crossing (fun level => formula.xpForLevel level ≤ xp) formula.maxLevel
        (search (fun level => formula.xpForLevel level) xp formula.maxLevel) :=
      crossing_search formula.maxLevel_pos enough
    exact_mod_cast (formula.isGreatest_levelForXp enough).unique
      (searched.isGreatest (formula.xpForLevel_monotone.monotoneOn _) free)

theorem levelForXp_monotone : Monotone formula.levelForXp := by
  intro less more rises
  rcases lt_or_ge less 0 with negative | enough
  · rw [formula.levelForXp_of_neg negative]
    exact formula.levelForXp_pos
  · have inside : (formula.levelForXp less : Int) ≤ formula.levelForXp more :=
      (formula.isGreatest_levelForXp enough).mono (formula.isGreatest_levelForXp (enough.trans rises))
        fun _ member => ⟨member.1, member.2.1, member.2.2.trans rises⟩
    exact_mod_cast inside

/-- Whether no level costs anything, as in a linear formula that asks for no XP. -/
def isFree : Formula → Bool
  | linear formula => formula.xpPerLevel == 0
  | _ => false

theorem xpForLevel_strictMonoOn (costs : formula.isFree = false) :
    StrictMonoOn formula.xpForLevel (Set.Icc 1 (formula.maxLevel : Int)) := by
  cases formula with
  | exponential formula => exact floorAt_strictMonoOn formula.checked
  | linear formula => exact Linear.xpForLevel_strictMonoOn (by simpa [isFree] using costs)
  | table table => exact LevelTable.xpForLevel_strictMonoOn
  | custom formula => exact floorAt_strictMonoOn formula.checked

theorem xpForLevel_nonneg : 0 ≤ formula.xpForLevel level := by
  rcases le_or_gt level 1 with low | above
  · rw [formula.xpForLevel_of_le_one low]
  · rw [← formula.xpForLevel_of_le_one (le_refl 1)]
    exact formula.xpForLevel_monotone above.le

/-- If levels cost something, the level of a floor is that of which it is the floor. -/
theorem levelForXp_xpForLevel (costs : formula.isFree = false) (first : 1 ≤ level) (last : level ≤ formula.maxLevel) :
    (formula.levelForXp (formula.xpForLevel level) : Int) = level := by
  have inverse : RoundTrip formula.xpForLevel formula.levelForXp formula.maxLevel :=
    .of_isGreatest formula.maxLevel_pos (formula.xpForLevel_of_le_one le_rfl)
      (formula.xpForLevel_strictMonoOn costs) fun xp => formula.isGreatest_levelForXp
  exact inverse.returns level ⟨first, last⟩

/-- Whatever XP there is, its level is between one and the top. XP that is not negative affords exactly the
levels up to its level, which is thus the greatest affordable one, and more XP never affords less. Dividing,
halving a table and searching by doubled steps find the same level. Floors never fall. -/
theorem level_greatest_affordable (formula : Formula) :
    (∀ xp, 1 ≤ formula.levelForXp xp ∧ formula.levelForXp xp ≤ formula.maxLevel) ∧
    (∀ xp, 0 ≤ xp → ∀ level ∈ Set.Icc 1 (formula.maxLevel : Int),
      formula.xpForLevel level ≤ xp ↔ level ≤ formula.levelForXp xp) ∧
    (∀ xp, 0 ≤ xp →
      IsGreatest { level : Int | 1 ≤ level ∧ level ≤ formula.maxLevel ∧ formula.xpForLevel level ≤ xp }
        (formula.levelForXp xp)) ∧
    Monotone formula.levelForXp ∧
    (∀ xp, formula.levelForXp xp = search (fun level => formula.xpForLevel level) xp formula.maxLevel) ∧
    Monotone formula.xpForLevel := by
  refine ⟨fun xp => ⟨formula.levelForXp_pos, formula.levelForXp_le_maxLevel⟩, ?_,
    fun xp => formula.isGreatest_levelForXp, formula.levelForXp_monotone,
    fun xp => formula.levelForXp_eq_search, formula.xpForLevel_monotone⟩
  rintro xp enough level ⟨first, last⟩
  exact formula.xpForLevel_le_iff enough first last

/-- If levels cost something, floors and levels are inverse to each other up to the top. For computed floors
this rests on the check alone: whatever computes them, a curve that passes has the same property. -/
theorem floors_and_levels_inverse :
    (∀ formula : Formula, formula.isFree = false →
      RoundTrip formula.xpForLevel formula.levelForXp formula.maxLevel) ∧
    (∀ (floor? : Nat → Except FloorFault Int) (top : Nat) (checked : check floor? top = .ok ()), 1 ≤ top →
      RoundTrip (floorAt floor? top checked)
        (fun xp => search (fun level => floorAt floor? top checked level) xp top) top) := by
  constructor
  · intro formula costs
    exact .of_isGreatest formula.maxLevel_pos (formula.xpForLevel_of_le_one le_rfl)
      (formula.xpForLevel_strictMonoOn costs) fun xp => formula.isGreatest_levelForXp
  · intro floor? top checked positive
    exact roundTrip_of_check checked positive

/-- Levels at 100 XP each. -/
def hundredEach : Formula := linear ⟨100, 60, by decide, by decide⟩

/-- Levels at 10 XP each. -/
def tenEach : Formula := linear ⟨10, 60, by decide, by decide⟩

/-- Squares as computed floors. -/
def squares (level : Nat) : Except FloorFault Int := .ok (level * level : Nat)

theorem check_squares : check squares 4 = .ok () := by
  simp [check, checkFrom, squares]

theorem floors_and_levels_inverse_hundred_squares :
    RoundTrip hundredEach.xpForLevel hundredEach.levelForXp 60 ∧
      RoundTrip (floorAt squares 4 check_squares)
        (fun xp => search (fun level => floorAt squares 4 check_squares level) xp 4) 4 :=
  ⟨floors_and_levels_inverse.1 hundredEach rfl, floors_and_levels_inverse.2 squares 4 check_squares (by decide)⟩

end Formula

end Progression
