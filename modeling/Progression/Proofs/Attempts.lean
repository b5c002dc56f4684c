import Progression.Proofs.Formula

/-!
Levels and floors worked out as they may fail: a computed floor may have no value, a row may not be listed, a divisor may
be zero. The guards and the check of a formula leave none of this to happen.
-/

namespace Progression

variable {ε : Type}

namespace Curve

/-- The floor of a level: only those above the first and up to the top are computed. -/
def attemptFloor (floor? : Nat → Except ε Int) (top : Nat) (level : Int) : Except ε Int :=
  if level ≤ 1 then .ok 0 else if (top : Int) < level then .ok maxXp else floor? level.toNat

/-- Climb from an affordable level, as far as it can be told which levels are affordable. -/
def attemptClimb (affordable? : Nat → Except ε Bool) (top low power : Nat) : Except ε (Nat × Nat) :=
  let high := low + 1 <<< power
  if high ≤ top then
    match affordable? high with
    | .error fault => .error fault
    | .ok true => attemptClimb affordable? top high (power + 1)
    | .ok false => .ok (low, high)
  else .ok (low, high)
termination_by top - low
decreasing_by
  have := Nat.two_pow_pos power
  rw [← Nat.one_shiftLeft] at this
  omega

/-- Halve the gap between two levels, as far as it can be told which levels are affordable. -/
def attemptBisect (affordable? : Nat → Except ε Bool) (low high : Nat) : Except ε Nat :=
  if low + 1 < high then
    let middle := (low + high) / 2
    match affordable? middle with
    | .error fault => .error fault
    | .ok true => attemptBisect affordable? middle high
    | .ok false => attemptBisect affordable? low middle
  else .ok low
termination_by high - low

/-- Whether an amount of XP affords a level, if its floor can be worked out. -/
def attemptAffordable (floor? : Nat → Except ε Int) (xp : Int) (level : Nat) : Except ε Bool :=
  (floor? level).map fun floor => decide (floor ≤ xp)

/-- The level that an amount of XP affords, if all floors that are looked at can be worked out. -/
def attemptSearch (floor? : Nat → Except ε Int) (xp : Int) (top : Nat) : Except ε Nat :=
  if xp < 0 then .ok 1
  else do
    let reached ← attemptClimb (attemptAffordable floor? xp) top 1 0
    attemptBisect (attemptAffordable floor? xp) reached.1 (min reached.2 (top + 1))

/-- A checked curve computes all floors that its guards leave to compute. -/
theorem attemptFloor_eq {floor? : Nat → Except ε Int} {top : Nat} (checked : check floor? top = .ok ()) (level : Int) :
    attemptFloor floor? top level = .ok (floorAt floor? top checked level) := by
  rw [attemptFloor]
  by_cases low : level ≤ 1
  · rw [if_pos low, floorAt_of_le_one checked low]
  · rw [if_neg low]
    by_cases past : (top : Int) < level
    · rw [if_pos past, floorAt, dif_neg low, dif_pos past]
    · rw [if_neg past]
      exact floor?_eq_floorAt checked (by omega) (by omega)

section Search

variable {affordable? : Nat → Except ε Bool} {affordable : Nat → Bool} {top low high : Nat}

theorem lt_climbed {power : Nat} : low < low + 1 <<< power := by
  rw [Nat.one_shiftLeft]
  exact Nat.lt_add_of_pos_right (Nat.two_pow_pos power)

/-- Climbing looks at levels above where it begins, up to the top. -/
theorem attemptClimb_eq {power : Nat}
    (told : ∀ level, low < level → level ≤ top → affordable? level = .ok (affordable level)) :
    attemptClimb affordable? top low power = .ok (climb affordable top low power) := by
  induction low, power using climb.induct affordable top with
  | case1 low power high go ih =>
    rw [attemptClimb, climb, if_pos go, if_pos go.1, told _ lt_climbed go.1, go.2]
    exact ih fun level later => told level (lt_climbed.trans later)
  | case2 low power high stop =>
    rw [attemptClimb, climb, if_neg stop]
    by_cases within : low + 1 <<< power ≤ top
    · have dear : affordable (low + 1 <<< power) = false := by simpa using fun affords => stop ⟨within, affords⟩
      rw [if_pos within, told _ lt_climbed within, dear]
    · rw [if_neg within]

/-- Halving looks at levels strictly between the two. -/
theorem attemptBisect_eq (told : ∀ level, low < level → level < high → affordable? level = .ok (affordable level)) :
    attemptBisect affordable? low high = .ok (bisect affordable low high) := by
  induction low, high using bisect.induct affordable with
  | case1 low high apart middle affords ih =>
    have inside : low < middle ∧ middle < high := by omega
    rw [attemptBisect, bisect, if_pos apart, if_pos apart]
    dsimp only
    rw [told ((low + high) / 2) inside.1 inside.2, if_pos affords, affords]
    exact ih fun level above => told level (inside.1.trans above)
  | case2 low high apart middle dear ih =>
    have inside : low < middle ∧ middle < high := by omega
    have refused : affordable middle = false := by simpa using dear
    rw [attemptBisect, bisect, if_pos apart, if_pos apart]
    dsimp only
    rw [told ((low + high) / 2) inside.1 inside.2, if_neg dear, refused]
    exact ih fun level above below => told level above (below.trans inside.2)
  | case3 low high near => rw [attemptBisect, bisect, if_neg near, if_neg near]

/-- A search looks at floors of levels above the first, up to the top, whatever the XP. -/
theorem attemptSearch_eq {floor? : Nat → Except ε Int} {floorAt : Nat → Int} {xp : Int} (positive : 1 ≤ top)
    (computed : ∀ level, 2 ≤ level → level ≤ top → floor? level = .ok (floorAt level)) :
    attemptSearch floor? xp top = .ok (search floorAt xp top) := by
  rw [attemptSearch, search]
  by_cases negative : xp < 0
  · rw [if_pos negative, if_pos negative]
  · rw [if_neg negative, if_neg negative]
    have told (level : Nat) (above : 1 < level) (within : level ≤ top) :
        attemptAffordable floor? xp level = .ok (decide (floorAt level ≤ xp)) := by
      rw [attemptAffordable, computed level above within]
      rfl
    have bracket : Bracket (fun level => decide (floorAt level ≤ xp)) top
        (climb (fun level => decide (floorAt level ≤ xp)) top 1 0).1
        (climb (fun level => decide (floorAt level ≤ xp)) top 1 0).2 :=
      bracket_climb le_rfl positive (.inl rfl)
    rw [attemptClimb_eq told]
    refine attemptBisect_eq fun level above below => told level (lt_of_le_of_lt bracket.first above) ?_
    exact Nat.le_of_lt_succ (below.trans_le (Nat.min_le_right ..))

end Search

end Curve

/-- Why a level or a floor cannot be worked out. -/
inductive LookupFault where
  /-- A floor cannot be computed. -/
  | floor (fault : FloorFault)
  /-- A table does not list a level. -/
  | notListed (level : Nat)
  | zeroDivision

/-- The listed floor of a level that counts from one, if it is listed. -/
def attemptRow (floors : Array Int) (level : Nat) : Except LookupFault Int :=
  (floors[level - 1]?).elim (.error (.notListed level)) .ok

/-- How often a step fits into an amount. -/
def attemptQuotient (amount step : Nat) : Except LookupFault Nat :=
  if step = 0 then .error .zeroDivision else .ok (amount / step)

namespace Formula

/-- The XP that a level needs, as it is worked out. -/
def attemptFloor : Formula → Int → Except LookupFault Int
  | exponential formula, level =>
    (Curve.attemptFloor (exponentialFloor formula.baseXp.value formula.exponent.value) formula.maxLevel level).mapError .floor
  | linear formula, level => .ok (formula.xpForLevel level)
  | table levels, level =>
    if level ≤ 1 then .ok 0 else attemptRow levels.floors (min level.toNat levels.maxLevel)
  | custom formula, level =>
    (Curve.attemptFloor (expressionFloor formula.expression formula.term) formula.maxLevel level).mapError .floor

/-- The level that an amount of XP affords, as it is worked out. -/
def attemptLevel : Formula → Int → Except LookupFault Nat
  | linear formula, xp =>
    if xp < 0 then .ok 1
    else if formula.xpPerLevel = 0 then .ok formula.maxLevel
    else (attemptQuotient xp.toNat formula.xpPerLevel).map fun quotient => min formula.maxLevel (1 + quotient)
  | table levels, xp =>
    if xp < 0 then .ok 1
    else Curve.attemptBisect (Curve.attemptAffordable (attemptRow levels.floors) xp) 1 (levels.maxLevel + 1)
  | formula, xp => Curve.attemptSearch (fun level => formula.attemptFloor level) xp formula.maxLevel

theorem attemptRow_eq {levels : LevelTable} {level : Nat} (first : 1 ≤ level) (within : level ≤ levels.floors.size) :
    attemptRow levels.floors level = .ok (listedFloor levels.floors level) := by
  have inside : level - 1 < levels.floors.size := by omega
  rw [attemptRow, listedFloor, Array.getElem?_eq_getElem inside, Array.getD_eq_getD_getElem?,
    Array.getElem?_eq_getElem inside]
  rfl

variable (formula : Formula)

theorem attemptFloor_eq (level : Int) : formula.attemptFloor level = .ok (formula.xpForLevel level) := by
  cases formula with
  | exponential formula =>
    rw [attemptFloor, Curve.attemptFloor_eq formula.checked]
    rfl
  | linear formula => rfl
  | table levels =>
    rw [attemptFloor]
    by_cases low : level ≤ 1
    · rw [if_pos low, xpForLevel, LevelTable.xpForLevel, if_pos low]
    · have positive := levels.nonempty
      have first : 1 ≤ min level.toNat levels.floors.size := by omega
      rw [if_neg low, xpForLevel, LevelTable.xpForLevel, if_neg low]
      exact attemptRow_eq first (min_le_right _ _)
  | custom formula =>
    rw [attemptFloor, Curve.attemptFloor_eq formula.checked]
    rfl

theorem attemptLevel_eq (xp : Int) : formula.attemptLevel xp = .ok (formula.levelForXp xp) := by
  cases formula with
  | exponential formula =>
    exact Curve.attemptSearch_eq formula.maxLevel_pos fun level _ _ => attemptFloor_eq (.exponential formula) level
  | custom formula =>
    exact Curve.attemptSearch_eq formula.maxLevel_pos fun level _ _ => attemptFloor_eq (.custom formula) level
  | linear formula =>
    rw [attemptLevel, levelForXp, Linear.levelForXp]
    by_cases negative : xp < 0
    · rw [if_pos negative, if_pos negative]
    · rw [if_neg negative, if_neg negative]
      by_cases free : formula.xpPerLevel = 0
      · rw [if_pos free, if_pos free]
      · rw [if_neg free, if_neg free, attemptQuotient, if_neg free]
        rfl
  | table levels =>
    rw [attemptLevel, levelForXp, LevelTable.levelForXp]
    by_cases negative : xp < 0
    · rw [if_pos negative, if_pos negative]
    · rw [if_neg negative, if_neg negative]
      refine Curve.attemptBisect_eq fun level above below => ?_
      rw [Curve.attemptAffordable, attemptRow_eq (by omega) (Nat.le_of_lt_succ below)]
      rfl

end Formula

end Progression
