import Progression.Number.Checked

/-!
Curves of floors: the XP that each level needs. A level is found from XP by climbing in doubling steps and
then halving, and a curve of computed floors is checked level by level before it is used.
-/

namespace Progression

/-- The greatest XP that is stored. -/
def maxXp : Int := 0x7fffffffffffffff

/-- XP kept between zero and the greatest XP. -/
def clampXp (xp : Int) : Int := min (max xp 0) maxXp

/-- A computed floor as XP: rounded down and clamped. The undefined number is no XP. -/
def clampFloor? (x : Float) : Option Int :=
  match Number.Binary.ofFloat x with
  | .finite negative mantissa scale => some (clampXp (Number.floorOf negative mantissa scale))
  | .infinite negative => some (if negative then 0 else maxXp)
  | .undefined => none

/-- A computed floor that is an integer, clamped if it is within the range of numbers or below it. -/
def clampInteger? (n : Int) : Option Int :=
  if 0 < n && (Number.ofInt? n).isNone then none else some (clampXp n)

namespace Curve

/-- Climb from an affordable level in steps of `2 ^ power`, doubling them, up to the first level that is
past the top or not affordable; gives the level before it and that level. -/
def climb (affordable : Nat → Bool) (top low power : Nat) : Nat × Nat :=
  let high := low + 1 <<< power
  if high ≤ top ∧ affordable high then climb affordable top high (power + 1) else (low, high)
termination_by top - low
decreasing_by
  have := Nat.two_pow_pos power
  rw [← Nat.one_shiftLeft] at this
  omega

/-- Halve the gap between an affordable level and one that is not, until they are neighbours. -/
def bisect (affordable : Nat → Bool) (low high : Nat) : Nat :=
  if low + 1 < high then
    let middle := (low + high) / 2
    if affordable middle then bisect affordable middle high else bisect affordable low middle
  else low
termination_by high - low

/-- The level that an amount of XP affords, of those up to the top. -/
def search (floorAt : Nat → Int) (xp : Int) (top : Nat) : Nat :=
  if xp < 0 then 1
  else
    let affordable := fun level => decide (floorAt level ≤ xp)
    let (low, high) := climb affordable top 1 0
    bisect affordable low (min high (top + 1))

/-- What is wrong with a computed curve. -/
inductive Fault (ε : Type) where
  /-- A floor cannot be computed. -/
  | floor (fault : ε)
  /-- A floor is not above the one before it. -/
  | plateau (level : Nat) (floor previous : Int)

/-- Check the floors from a level up to the top, the floor before being `previous`. -/
def checkFrom {ε : Type} (floor? : Nat → Except ε Int) (top level : Nat) (previous : Int) :
    Except (Fault ε) Unit :=
  if level ≤ top then
    match floor? level with
    | .error fault => .error (.floor fault)
    | .ok floor =>
      if floor ≤ previous then .error (.plateau level floor previous)
      else checkFrom floor? top (level + 1) floor
  else .ok ()
termination_by top + 1 - level

/-- Check that the floors rise strictly from level one, which needs nothing, up to the top. -/
def check {ε : Type} (floor? : Nat → Except ε Int) (top : Nat) : Except (Fault ε) Unit :=
  checkFrom floor? top 2 0

theorem floor?_ok_of_checkFrom {ε : Type} {floor? : Nat → Except ε Int} {top start level : Nat}
    {previous : Int} (checked : checkFrom floor? top start previous = .ok ()) (above : start ≤ level)
    (below : level ≤ top) : ∃ floor, floor? level = .ok floor := by
  induction start, previous using checkFrom.induct floor? top with
  | case1 start previous inside fault found => rw [checkFrom] at checked; simp [inside, found] at checked
  | case2 start previous inside floor found low =>
    rw [checkFrom] at checked; simp [inside, found, low] at checked
  | case3 start previous inside floor found high ih =>
    rw [checkFrom] at checked
    simp only [inside, found, high, if_true, if_false] at checked
    rcases Nat.eq_or_lt_of_le above with same | later
    · exact ⟨floor, same ▸ found⟩
    · exact ih checked later
  | case4 start previous outside => omega

/-- The floors of a checked curve at every level: level one and those below it need nothing, and the levels
past the top need the greatest XP. -/
def floorAt {ε : Type} (floor? : Nat → Except ε Int) (top : Nat) (checked : check floor? top = .ok ())
    (level : Int) : Int :=
  if low : level ≤ 1 then 0
  else if high : (top : Int) < level then maxXp
  else
    match found : floor? level.toNat with
    | .ok floor => floor
    | .error _ => False.elim (by
      obtain ⟨floor, computed⟩ := floor?_ok_of_checkFrom checked
        (show 2 ≤ level.toNat by omega) (show level.toNat ≤ top by omega)
      rw [computed] at found
      cases found)

end Curve

end Progression
