import Mathlib.Order.Monotone.Defs
import Progression.Proofs.Attempts

/-!
A search step by step. Each step looks at the floor of at most one level, which is above the first and not past the
top, and after a number of steps that is logarithmic in the top the search has ended, whatever the floors are. Where
floors never fall, it ends where climbing level by level ends.
-/

namespace Progression.Curve

/-- Where a search stands: it climbs in doubled steps, halves the gap between two levels, or has ended. -/
inductive Searching where
  | climbing (low power : Nat)
  | halving (low high : Nat)
  | ended (level : Nat)

namespace Searching

/-- Where a search begins; below zero there is nothing to search for. -/
def start (xp : Int) : Searching := if xp < 0 then ended 1 else climbing 1 0

/-- The level whose floor is looked at next. -/
def looksAt? (top : Nat) : Searching → Option Nat
  | climbing low power => if low + 1 <<< power ≤ top then some (low + 1 <<< power) else none
  | halving low high => if low + 1 < high then some ((low + high) / 2) else none
  | ended _ => none

/-- Where a search goes on, by whether it has looked at a level that is affordable. If it looks at none, it has not. -/
def next (top : Nat) (affords : Bool) : Searching → Searching
  | climbing low power =>
    if affords then climbing (low + 1 <<< power) (power + 1) else halving low (min (low + 1 <<< power) (top + 1))
  | halving low high =>
    if low + 1 < high then
      if affords then halving ((low + high) / 2) high else halving low ((low + high) / 2)
    else ended low
  | ended level => ended level

/-- One step of a search. Floors come in by the level that is looked at, and in no other way. -/
def step (affordable : Nat → Bool) (top : Nat) (search : Searching) : Searching :=
  search.next top ((search.looksAt? top).any affordable)

/-- Where a search stands after a number of steps. -/
def after (floorAt : Nat → Int) (xp : Int) (top steps : Nat) : Searching :=
  (step (fun level => floorAt level ≤ xp) top)^[steps] (start xp)

/-- A search stays between the first level and the one past the top. -/
def Within (top : Nat) : Searching → Prop
  | climbing low _ => 1 ≤ low
  | halving low high => 1 ≤ low ∧ high ≤ top + 1
  | ended _ => True

variable {affordable : Nat → Bool} {top low high : Nat} {search : Searching}

theorem step_climbing {power : Nat} : step affordable top (climbing low power) =
    if low + 1 <<< power ≤ top ∧ affordable (low + 1 <<< power) then climbing (low + 1 <<< power) (power + 1)
    else halving low (min (low + 1 <<< power) (top + 1)) := by
  rw [step, looksAt?, next]
  by_cases inside : low + 1 <<< power ≤ top
  · simp [inside]
  · simp [inside]

theorem step_halving (apart : low + 1 < high) : step affordable top (halving low high) =
    if affordable ((low + high) / 2) then halving ((low + high) / 2) high else halving low ((low + high) / 2) := by
  rw [step, looksAt?, next, if_pos apart, if_pos apart, Option.any_some]

theorem step_halving_of_near (near : ¬ low + 1 < high) : step affordable top (halving low high) = ended low := by
  rw [step, next, if_neg near]

theorem within_start {xp : Int} : (start xp).Within top := by
  rw [start]
  split
  · trivial
  · exact le_refl 1

theorem Within.step (within : search.Within top) : (search.step affordable top).Within top := by
  cases search with
  | climbing low power =>
    rw [step_climbing]
    split
    · exact Nat.le_add_right_of_le within
    · exact ⟨within, min_le_right _ _⟩
  | halving low high =>
    obtain ⟨first, last⟩ := within
    by_cases apart : low + 1 < high
    · rw [step_halving apart]
      split
      · exact ⟨by omega, last⟩
      · exact ⟨first, by omega⟩
    · rw [step_halving_of_near apart]
      trivial
  | ended level => trivial

theorem within_after {floorAt : Nat → Int} {xp : Int} (steps : Nat) : (after floorAt xp top steps).Within top := by
  induction steps with
  | zero => exact within_start
  | succ steps ih =>
    rw [after, Function.iterate_succ_apply']
    exact ih.step

theorem Within.looksAt {level : Nat} (within : search.Within top) (looks : search.looksAt? top = some level) :
    2 ≤ level ∧ level ≤ top := by
  cases search with
  | climbing low power =>
    rw [looksAt?] at looks
    split_ifs at looks with inside
    cases looks
    have rises : low < low + 1 <<< power := lt_climbed
    exact ⟨lt_of_le_of_lt within rises, inside⟩
  | halving low high =>
    obtain ⟨first, last⟩ := within
    rw [looksAt?] at looks
    split_ifs at looks with apart
    cases looks
    omega
  | ended level => cases looks

/-- A gap that is no wider than a power of two is closed after that many halvings, and one more step sees that it is. -/
theorem halving_ends (affordable : Nat → Bool) (top : Nat) {halvings : Nat} (gap : high ≤ low + 2 ^ halvings) :
    ∃ steps ≤ halvings + 1, (step affordable top)^[steps] (halving low high) = ended (bisect affordable low high) := by
  -- Either half of a gap is within half of the power, so that the power falls with each halving.
  induction halvings generalizing low high with
  | zero =>
    have near : ¬ low + 1 < high := by omega
    exact ⟨1, le_rfl, by rw [Function.iterate_one, step_halving_of_near near, bisect, if_neg near]⟩
  | succ halvings ih =>
    rw [bisect]
    by_cases apart : low + 1 < high
    · rw [if_pos apart]
      by_cases affords : affordable ((low + high) / 2)
      · obtain ⟨steps, few, ends⟩ := ih (show high ≤ (low + high) / 2 + 2 ^ halvings by omega)
        refine ⟨steps + 1, by omega, ?_⟩
        rw [Function.iterate_succ_apply, step_halving apart, if_pos affords, if_pos affords, ends]
      · obtain ⟨steps, few, ends⟩ := ih (show (low + high) / 2 ≤ low + 2 ^ halvings by omega)
        refine ⟨steps + 1, by omega, ?_⟩
        rw [Function.iterate_succ_apply, step_halving apart, if_neg affords, if_neg affords, ends]
    · rw [if_neg apart]
      exact ⟨1, by omega, by rw [Function.iterate_one, step_halving_of_near apart]⟩

/-- Climbing from a power of two stops before the powers pass the top, with a gap that is no wider than the last of
them. -/
theorem climbing_ends (affordable : Nat → Bool) {power : Nat} (doubled : low = 2 ^ power) (last : low ≤ top) :
    (climb affordable top low power).2 ≤ (climb affordable top low power).1 + 2 ^ top.log2 ∧
      ∃ steps ≤ top.log2 - power + 1, (step affordable top)^[steps] (climbing low power) =
        halving (climb affordable top low power).1 (min (climb affordable top low power).2 (top + 1)) := by
  -- Where climbing begins, the level is the step that comes next; each doubling keeps it so.
  have positive : 0 < 2 ^ power := Nat.two_pow_pos power
  have bounded : power ≤ top.log2 := (Nat.le_log2 (by omega)).2 (doubled ▸ last)
  induction low, power using climb.induct affordable top with
  | case1 low power high go ih =>
    have next : high = 2 ^ (power + 1) := by
      simp only [high, Nat.one_shiftLeft]
      omega
    have fits : power + 1 ≤ top.log2 := (Nat.le_log2 (by omega)).2 (next ▸ go.1)
    obtain ⟨gap, steps, few, reaches⟩ := ih next go.1 (Nat.two_pow_pos _) fits
    rw [climb, if_pos go]
    refine ⟨gap, steps + 1, by omega, ?_⟩
    rw [Function.iterate_succ_apply, step_climbing, if_pos go, reaches]
  | case2 low power high stop =>
    rw [climb, if_neg stop]
    refine ⟨?_, 1, by omega, ?_⟩
    · rw [Nat.one_shiftLeft]
      exact Nat.add_le_add_left (Nat.pow_le_pow_right (by omega) bounded) low
    · rw [Function.iterate_one, step_climbing, if_neg stop]

/-- Doubling and halving together take a number of steps that is logarithmic in the top. -/
theorem after_ends {floorAt : Nat → Int} {xp : Int} (positive : 1 ≤ top) :
    ∃ steps ≤ 2 * top.log2 + 2, after floorAt xp top steps = ended (Curve.search floorAt xp top) := by
  by_cases negative : xp < 0
  · exact ⟨0, by omega, by rw [after, Function.iterate_zero_apply, start, if_pos negative, search_of_neg negative]⟩
  · obtain ⟨gap, climbs, few, reaches⟩ :=
      climbing_ends (fun level => floorAt level ≤ xp) (Nat.pow_zero 2).symm positive
    obtain ⟨halvings, fewer, ends⟩ :=
      halving_ends (fun level => floorAt level ≤ xp) top ((min_le_left _ (top + 1)).trans gap)
    refine ⟨halvings + climbs, by omega, ?_⟩
    rw [after, start, if_neg negative, Function.iterate_add_apply, reaches, ends, Curve.search, if_neg negative]

end Searching

variable {affordable : Nat → Bool} {floorAt : Nat → Int} {xp : Int} {top low level : Nat}

/-- Climb level by level while the next one is up to the top and affordable. -/
def scan (affordable : Nat → Bool) (top low : Nat) : Nat :=
  if low < top ∧ affordable (low + 1) then scan affordable top (low + 1) else low
termination_by top - low

theorem crossing_scan (first : 1 ≤ low) (last : low ≤ top) (affords : low = 1 ∨ affordable low) :
    Crossing affordable top (scan affordable top low) := by
  induction low using scan.induct affordable top with
  | case1 low go ih =>
    rw [scan, if_pos go]
    exact ih (Nat.le_add_left 1 low) go.1 (.inr go.2)
  | case2 low stop =>
    rw [scan, if_neg stop]
    refine ⟨first, last, affords, ?_⟩
    rcases Nat.eq_or_lt_of_le last with highest | below
    · exact .inl highest
    · exact .inr (by simpa using fun affords => stop ⟨below, affords⟩)

theorem Crossing.counted (crossing : Crossing affordable top level) :
    Crossing (fun level => level == 1 || affordable level) top level := by
  have first := crossing.first
  refine ⟨first, crossing.last, ?_, ?_⟩
  · rcases crossing.affords with lowest | affords
    · exact .inl lowest
    · exact .inr (by simp [affords])
  · rcases crossing.ends with highest | dear
    · exact .inl highest
    · have positive : level ≠ 0 := by omega
      exact .inr (by simp [positive, dear])

theorem Crossing.unique_of_monotoneOn {other : Nat} (crossing : Crossing (fun level => floorAt level ≤ xp) top level)
    (same : Crossing (fun level => floorAt level ≤ xp) top other) (rises : MonotoneOn floorAt (Set.Icc 2 top)) :
    level = other := by
  -- What the first level needs is not compared, so that it is counted as affordable to leave no gap.
  refine crossing.counted.unique same.counted ?_ rfl
  intro lower upper first below last affords
  rcases Nat.eq_or_lt_of_le first with lowest | above
  · simp [← lowest]
  · have enough : floorAt upper ≤ xp := by
      simpa [show upper ≠ 1 by omega] using affords
    have lowerMem : lower ∈ Set.Icc 2 top := ⟨above, below.trans last⟩
    have upperMem : upper ∈ Set.Icc 2 top := ⟨Nat.le_trans above below, last⟩
    have kept : floorAt lower ≤ floorAt upper := rises lowerMem upperMem below
    simp [kept.trans enough]

/-- Only the floors of levels above the first and up to the top matter. -/
theorem search_congr {other : Nat → Int} (positive : 1 ≤ top) (same : Set.EqOn other floorAt (Set.Icc 2 top)) :
    search other xp top = search floorAt xp top := by
  have looked : attemptSearch (ε := Empty) (fun level => .ok (other level)) xp top = .ok (search other xp top) :=
    attemptSearch_eq positive fun _ _ _ => rfl
  have again : attemptSearch (ε := Empty) (fun level => .ok (other level)) xp top = .ok (search floorAt xp top) :=
    attemptSearch_eq positive fun level above within => congrArg _ (same ⟨above, within⟩)
  exact Except.ok.inj (looked.symm.trans again)

/-- Whatever the floors are, a search ends, after a number of steps that is logarithmic in the top, and looks at no floor
of the first level or of a level past the top; floors elsewhere do not matter. For XP that is not negative it ends up to
the top, at the first level or one that is affordable, and at the top or below a level that is not affordable. Where
floors never fall, this is the level at which climbing level by level ends. -/
theorem search_ends_at_crossing (floorAt : Nat → Int) (xp : Int) {top : Nat} (positive : 1 ≤ top) :
    (∃ steps ≤ 2 * top.log2 + 2, Searching.after floorAt xp top steps = .ended (search floorAt xp top)) ∧
    (∀ steps level, (Searching.after floorAt xp top steps).looksAt? top = some level → level ∈ Set.Icc 2 top) ∧
    (∀ other, Set.EqOn other floorAt (Set.Icc 2 top) → search other xp top = search floorAt xp top) ∧
    (0 ≤ xp → search floorAt xp top ∈ Set.Icc 1 top ∧
      (search floorAt xp top = 1 ∨ floorAt (search floorAt xp top) ≤ xp) ∧
      (search floorAt xp top = top ∨ xp < floorAt (search floorAt xp top + 1)) ∧
      (MonotoneOn floorAt (Set.Icc 2 top) →
        search floorAt xp top = scan (fun level => floorAt level ≤ xp) top 1)) := by
  refine ⟨Searching.after_ends positive, ?_, fun other => search_congr positive, fun enough => ?_⟩
  · intro steps level looks
    exact (Searching.within_after steps).looksAt looks
  · have crossing : Crossing (fun level => floorAt level ≤ xp) top (search floorAt xp top) :=
      crossing_search positive enough
    refine ⟨⟨crossing.first, crossing.last⟩, ?_, ?_, fun rises => ?_⟩
    · exact crossing.affords.imp_right of_decide_eq_true
    · exact crossing.ends.imp_right fun dear => not_le.1 (of_decide_eq_false dear)
    · exact crossing.unique_of_monotoneOn (crossing_scan le_rfl positive (.inl rfl)) rises

/-- Squares as floors. -/
def squareFloor (level : Nat) : Int := (level * level : Nat)

/-- Among squares up to the fifth, 10 XP are enough for the third. -/
theorem search_ends_at_crossing_squares :
    MonotoneOn squareFloor (Set.Icc 2 5) ∧
      search squareFloor 10 5 = scan (fun level => squareFloor level ≤ 10) 5 1 ∧ search squareFloor 10 5 = 3 := by
  have rises : MonotoneOn squareFloor (Set.Icc 2 5) := by
    intro lower _ upper _ below
    exact Int.ofNat_le.2 (Nat.mul_le_mul below below)
  obtain ⟨-, -, -, found⟩ := search_ends_at_crossing squareFloor 10 (show 1 ≤ 5 by decide)
  have same := (found (by decide)).2.2.2 rises
  exact ⟨rises, same, by rw [same]; simp [scan, squareFloor]⟩

end Progression.Curve
