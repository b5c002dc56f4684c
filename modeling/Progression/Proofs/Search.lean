import Mathlib.Tactic.ByContra
import Progression.Curve

namespace Progression.Curve

/-- A level up to the top at which affordable levels end. The first level counts as affordable. -/
structure Crossing (affordable : Nat → Bool) (top level : Nat) : Prop where
  first : 1 ≤ level
  last : level ≤ top
  affords : level = 1 ∨ affordable level
  ends : level = top ∨ affordable (level + 1) = false

/-- Two levels between which a crossing lies: the lower one counts as affordable, and the upper one is past
the top or not affordable. -/
structure Bracket (affordable : Nat → Bool) (top low high : Nat) : Prop where
  first : 1 ≤ low
  last : low ≤ top
  rises : low < high
  affords : low = 1 ∨ affordable low
  ends : top < high ∨ affordable high = false

variable {affordable : Nat → Bool} {top low high : Nat}

theorem bracket_climb {power : Nat} (first : 1 ≤ low) (last : low ≤ top)
    (affords : low = 1 ∨ affordable low) :
    Bracket affordable top (climb affordable top low power).1 (climb affordable top low power).2 := by
  induction low, power using climb.induct affordable top with
  | case1 low power high go ih =>
    rw [climb, if_pos go]
    exact ih (Nat.le_add_right_of_le first) go.1 (.inr go.2)
  | case2 low power high stop =>
    rw [climb, if_neg stop]
    have positive : 0 < 1 <<< power := by
      rw [Nat.one_shiftLeft]
      exact Nat.two_pow_pos power
    have rises : low < low + 1 <<< power := Nat.lt_add_of_pos_right positive
    refine ⟨first, last, rises, affords, ?_⟩
    rcases Nat.lt_or_ge top (low + 1 <<< power) with past | within
    · exact .inl past
    · exact .inr (by simpa using fun dear => stop ⟨within, dear⟩)

theorem Bracket.capped (bracket : Bracket affordable top low high) :
    Bracket affordable top low (min high (top + 1)) := by
  have rises : low < min high (top + 1) := by
    have below := bracket.rises
    have last := bracket.last
    omega
  refine ⟨bracket.first, bracket.last, rises, bracket.affords, ?_⟩
  rcases Nat.lt_or_ge top high with past | within
  · exact .inl (by omega)
  · rw [Nat.min_eq_left (by omega)]
    exact bracket.ends

theorem crossing_bisect (bracket : Bracket affordable top low high) (within : high ≤ top + 1) :
    Crossing affordable top (bisect affordable low high) := by
  induction low, high using bisect.induct affordable with
  | case1 low high apart middle affords ih =>
    rw [bisect, if_pos apart, if_pos affords]
    have above := bracket.first
    exact ih ⟨by omega, by omega, by omega, .inr affords, bracket.ends⟩ within
  | case2 low high apart middle dear ih =>
    rw [bisect, if_pos apart, if_neg dear]
    have first := bracket.first
    exact ih ⟨first, bracket.last, by omega, bracket.affords, .inr (by simpa using dear)⟩ (by omega)
  | case3 low high near =>
    rw [bisect, if_neg near]
    have rises := bracket.rises
    have same : high = low + 1 := by omega
    refine ⟨bracket.first, bracket.last, bracket.affords, ?_⟩
    rcases bracket.ends with past | dear
    · exact .inl (by have last := bracket.last; omega)
    · exact .inr (same ▸ dear)

/-- A search ends at a crossing, whether or not the floors rise. -/
theorem crossing_search {floorAt : Nat → Int} {xp : Int} (positive : 1 ≤ top) (enough : 0 ≤ xp) :
    Crossing (fun level => floorAt level ≤ xp) top (search floorAt xp top) := by
  rw [search, if_neg (by omega)]
  have bracket : Bracket (fun level => floorAt level ≤ xp) top
      (climb (fun level => floorAt level ≤ xp) top 1 0).1 (climb (fun level => floorAt level ≤ xp) top 1 0).2 :=
    bracket_climb (Nat.le_refl 1) positive (.inl rfl)
  exact crossing_bisect bracket.capped (Nat.min_le_right _ _)

theorem search_of_neg {floorAt : Nat → Int} {xp : Int} (negative : xp < 0) : search floorAt xp top = 1 := by
  rw [search, if_pos negative]

theorem Crossing.congr {other : Nat → Bool} {level : Nat} (crossing : Crossing affordable top level)
    (same : ∀ level, 1 ≤ level → level ≤ top → affordable level = other level) :
    Crossing other top level := by
  have first := crossing.first
  have last := crossing.last
  refine ⟨first, last, ?_, ?_⟩
  · rw [← same level first last]
    exact crossing.affords
  · rcases Nat.eq_or_lt_of_le last with highest | below
    · exact .inl highest
    · rw [← same (level + 1) (by omega) below]
      exact crossing.ends

/-- Affordable levels have no gaps: what is below an affordable level is affordable. -/
def Gapless (affordable : Nat → Bool) (top : Nat) : Prop :=
  ∀ lower upper, 1 ≤ lower → lower ≤ upper → upper ≤ top → affordable upper → affordable lower

theorem Crossing.reached {level : Nat} (crossing : Crossing affordable top level) (free : affordable 1) :
    affordable level := by
  rcases crossing.affords with lowest | affords
  · exact lowest ▸ free
  · exact affords

theorem Crossing.affordable_iff {level other : Nat} (crossing : Crossing affordable top level)
    (gapless : Gapless affordable top) (free : affordable 1) (first : 1 ≤ other) (last : other ≤ top) :
    affordable other ↔ other ≤ level := by
  constructor
  · intro reached
    by_contra above
    rcases crossing.ends with highest | dear
    · omega
    · have lower := gapless (level + 1) other (by omega) (by omega) last reached
      rw [lower] at dear
      cases dear
  · intro below
    exact gapless other level first below crossing.last (crossing.reached free)

theorem Crossing.unique {level other : Nat} (crossing : Crossing affordable top level)
    (same : Crossing affordable top other) (gapless : Gapless affordable top) (free : affordable 1) :
    level = other := by
  have below := (same.affordable_iff gapless free crossing.first crossing.last).1 (crossing.reached free)
  have above := (crossing.affordable_iff gapless free same.first same.last).1 (same.reached free)
  exact Nat.le_antisymm below above

end Progression.Curve
