import Mathlib.Algebra.Order.SuccPred
import Mathlib.Data.Int.ConditionallyCompleteOrder
import Mathlib.Data.Int.SuccPred
import Mathlib.Order.Interval.Set.OrdConnected
import Mathlib.Tactic.Lift
import Progression.Proofs.Search

namespace Progression

theorem clampXp_mem {xp : Int} : 0 ≤ clampXp xp ∧ clampXp xp ≤ maxXp := by
  unfold clampXp maxXp
  omega

theorem clampFloor?_mem {x : Float} {floor : Int} (computed : clampFloor? x = some floor) :
    0 ≤ floor ∧ floor ≤ maxXp := by
  unfold clampFloor? at computed
  split at computed
  · cases computed
    exact clampXp_mem
  · cases computed
    split <;> simp [maxXp]
  · cases computed

namespace Curve

variable {ε : Type} {floor? : Nat → Except ε Int} {top : Nat}

/-- What a check that passes says about one level, and about the levels after it. -/
theorem checkFrom_ok {start : Nat} {previous : Int} (inside : start ≤ top)
    (checked : checkFrom floor? top start previous = .ok ()) :
    ∃ floor, floor? start = .ok floor ∧ previous < floor ∧
      checkFrom floor? top (start + 1) floor = .ok () := by
  rw [checkFrom, if_pos inside] at checked
  cases found : floor? start with
  | error fault => simp [found] at checked
  | ok floor =>
    by_cases low : floor ≤ previous
    · simp [found, low] at checked
    · refine ⟨floor, rfl, by omega, ?_⟩
      simpa [found, low] using checked

theorem neighbours_of_checkFrom {start level : Nat} {previous : Int}
    (checked : checkFrom floor? top start previous = .ok ()) (above : start ≤ level) (below : level < top) :
    ∃ low high, floor? level = .ok low ∧ floor? (level + 1) = .ok high ∧ low < high := by
  obtain ⟨gap, rfl⟩ := Nat.exists_eq_add_of_le above
  induction gap generalizing start previous with
  | zero =>
    obtain ⟨low, found, _, rest⟩ := checkFrom_ok (by omega) checked
    obtain ⟨high, next, rises, _⟩ := checkFrom_ok (by omega) rest
    exact ⟨low, high, found, next, rises⟩
  | succ gap ih =>
    obtain ⟨floor, _, _, rest⟩ := checkFrom_ok (by omega) checked
    have same : start + (gap + 1) = start + 1 + gap := by omega
    rw [same]
    exact ih rest (by omega) (by omega)

theorem checkFrom_of_rising {floors : Nat → Int} {start : Nat} {previous : Int}
    (computed : ∀ level, start ≤ level → level ≤ top → floor? level = .ok (floors level))
    (first : start ≤ top → previous < floors start)
    (rises : ∀ level, start ≤ level → level < top → floors level < floors (level + 1)) :
    checkFrom floor? top start previous = .ok () := by
  induction start, previous using checkFrom.induct floor? top with
  | case1 start previous inside fault found => cases found.symm.trans (computed start le_rfl inside)
  | case2 start previous inside floor found low =>
    cases found.symm.trans (computed start le_rfl inside)
    exact absurd (first inside) (not_lt.2 low)
  | case3 start previous inside floor found high ih =>
    rw [checkFrom, if_pos inside, found]
    dsimp only
    rw [if_neg high]
    cases found.symm.trans (computed start le_rfl inside)
    refine ih (fun level above => computed level (Nat.le_of_succ_le above)) (fun within => rises start le_rfl within) ?_
    exact fun level above => rises level (Nat.le_of_succ_le above)
  | case4 start previous outside => rw [checkFrom, if_neg outside]

variable (checked : check floor? top = .ok ()) {level : Int}

theorem floorAt_of_le_one (low : level ≤ 1) : floorAt floor? top checked level = 0 := by
  rw [floorAt, dif_pos low]

theorem floorAt_past (positive : 1 ≤ top) (past : top < level) : floorAt floor? top checked level = maxXp := by
  rw [floorAt, dif_neg (by omega), dif_pos past]

theorem floor?_eq_floorAt (above : 1 < level) (within : level ≤ top) :
    floor? level.toNat = .ok (floorAt floor? top checked level) := by
  rw [floorAt, dif_neg (by omega), dif_neg (by omega)]
  split
  · assumption
  · rename_i fault found
    obtain ⟨floor, computed⟩ := floor?_ok_of_checkFrom checked
      (show 2 ≤ level.toNat by omega) (show level.toNat ≤ top by omega)
    rw [computed] at found
    cases found

theorem floorAt_lt_next (first : 1 ≤ level) (below : level < top) :
    floorAt floor? top checked level < floorAt floor? top checked (level + 1) := by
  have next : floor? (level + 1).toNat = .ok (floorAt floor? top checked (level + 1)) :=
    floor?_eq_floorAt checked (by omega) (by omega)
  have index : (level + 1).toNat = level.toNat + 1 := by omega
  -- What would be computed for level one is not looked at: its successor is compared with zero.
  rcases Int.le_iff_lt_or_eq.1 first with above | same
  · obtain ⟨low, high, found, computed, rises⟩ := neighbours_of_checkFrom checked
      (show 2 ≤ level.toNat by omega) (show level.toNat < top by omega)
    rw [floor?_eq_floorAt checked above (by omega)] at found
    rw [index, computed] at next
    cases found
    cases next
    exact rises
  · subst same
    obtain ⟨floor, found, positive, _⟩ := checkFrom_ok (show 2 ≤ top by omega) checked
    rw [floorAt_of_le_one checked le_rfl]
    cases found.symm.trans next
    exact positive

/-- The floors of a checked curve rise strictly up to the top, whatever computes them. -/
theorem floorAt_strictMonoOn : StrictMonoOn (floorAt floor? top checked) (Set.Icc 1 (top : Int)) := by
  refine strictMonoOn_of_lt_add_one Set.ordConnected_Icc fun level _ member next => ?_
  exact floorAt_lt_next checked member.1 (Int.lt_of_add_one_le next.2)

theorem floorAt_le_maxXp (positive : 1 ≤ top)
    (bounded : ∀ level floor, floor? level = .ok floor → floor ≤ maxXp) :
    floorAt floor? top checked level ≤ maxXp := by
  rcases le_or_gt level 1 with low | above
  · rw [floorAt_of_le_one checked low]
    decide
  · rcases le_or_gt level top with within | past
    · exact bounded _ _ (floor?_eq_floorAt checked above within)
    · rw [floorAt_past checked positive past]

/-- If no computed floor is past the greatest XP, the floors never fall. -/
theorem floorAt_monotone (positive : 1 ≤ top)
    (bounded : ∀ level floor, floor? level = .ok floor → floor ≤ maxXp) :
    Monotone (floorAt floor? top checked) := by
  refine monotone_int_of_le_succ fun level => ?_
  rcases lt_or_ge level 1 with low | first
  · rw [floorAt_of_le_one checked low.le, floorAt_of_le_one checked (Int.add_one_le_of_lt low)]
  · rcases lt_or_ge level top with below | reached
    · exact (floorAt_lt_next checked first below).le
    · rw [floorAt_past checked positive (Int.lt_add_one_of_le reached)]
      exact floorAt_le_maxXp checked positive bounded

/-- What a crossing among floors means: it is the greatest level up to the top whose floor is affordable. -/
theorem Crossing.isGreatest {floors : Int → Int} {xp : Int} {found : Nat}
    (crossing : Crossing (fun level => floors level ≤ xp) top found)
    (rises : MonotoneOn floors (Set.Icc 1 (top : Int))) (free : floors 1 ≤ xp) :
    IsGreatest { level : Int | 1 ≤ level ∧ level ≤ top ∧ floors level ≤ xp } found := by
  have gapless : Gapless (fun level => floors level ≤ xp) top := by
    intro lower upper first below last affords
    have kept := rises (show (lower : Int) ∈ Set.Icc 1 (top : Int) from ⟨by omega, by omega⟩)
      (show (upper : Int) ∈ Set.Icc 1 (top : Int) from ⟨by omega, by omega⟩) (by omega)
    exact decide_eq_true (kept.trans (of_decide_eq_true affords))
  have first := crossing.first
  have last := crossing.last
  have affords := crossing.reached (decide_eq_true free)
  refine ⟨⟨by omega, by omega, of_decide_eq_true affords⟩, ?_⟩
  rintro level ⟨positive, within, affordable⟩
  lift level to Nat using by omega
  have below := (crossing.affordable_iff gapless (decide_eq_true free) (by omega) (by omega)).1
    (decide_eq_true affordable)
  exact_mod_cast below

/-- Floors and levels are inverse to each other up to the top. -/
structure RoundTrip (floors : Int → Int) (levels : Int → Nat) (top : Nat) : Prop where
  first : floors 1 = 0
  rises : StrictMonoOn floors (Set.Icc 1 (top : Int))
  returns : ∀ level ∈ Set.Icc 1 (top : Int), (levels (floors level) : Int) = level
  /-- One XP less than a floor is not enough for its level. -/
  falls : ∀ level ∈ Set.Icc 2 (top : Int), (levels (floors level - 1) : Int) = level - 1

theorem RoundTrip.of_isGreatest {floors : Int → Int} {levels : Int → Nat} (positive : 1 ≤ top)
    (first : floors 1 = 0) (rises : StrictMonoOn floors (Set.Icc 1 (top : Int)))
    (greatest : ∀ xp, 0 ≤ xp →
      IsGreatest { level : Int | 1 ≤ level ∧ level ≤ top ∧ floors level ≤ xp } (levels xp)) :
    RoundTrip floors levels top := by
  have lowest : (1 : Int) ∈ Set.Icc 1 (top : Int) := ⟨le_rfl, by omega⟩
  refine ⟨first, rises, ?_, ?_⟩
  · intro level member
    have enough : 0 ≤ floors level := first ▸ rises.monotoneOn lowest member member.1
    refine (greatest _ enough).unique ⟨⟨member.1, member.2, le_rfl⟩, ?_⟩
    rintro other ⟨above, within, affordable⟩
    exact (rises.le_iff_le ⟨above, within⟩ member).1 affordable
  · rintro level ⟨second, last⟩
    have upper : level ∈ Set.Icc 1 (top : Int) := ⟨by omega, last⟩
    have lower : level - 1 ∈ Set.Icc 1 (top : Int) := ⟨by omega, by omega⟩
    have below : floors (level - 1) < floors level := rises lower upper (sub_one_lt level)
    have enough : 0 ≤ floors (level - 1) := first ▸ rises.monotoneOn lowest lower lower.1
    refine (greatest _ (by omega)).unique ⟨⟨lower.1, lower.2, by omega⟩, ?_⟩
    rintro other ⟨above, within, affordable⟩
    have smaller := (rises.lt_iff_lt ⟨above, within⟩ upper).1 (by omega)
    omega

/-- Floors of a checked curve and levels that are searched among them are inverse to each other. -/
theorem roundTrip_of_check (positive : 1 ≤ top) :
    RoundTrip (floorAt floor? top checked)
      (fun xp => search (fun level => floorAt floor? top checked level) xp top) top := by
  have first := floorAt_of_le_one checked le_rfl
  have rises := floorAt_strictMonoOn checked
  refine .of_isGreatest positive first rises fun xp enough => ?_
  exact (crossing_search positive enough).isGreatest rises.monotoneOn (first.symm ▸ enough)

end Curve

end Progression
