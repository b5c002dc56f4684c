import Mathlib.Order.Nat
import Progression.Proofs.Rebuild
import Progression.Proofs.Refusals

namespace Progression

open Number Expression

namespace Curve

variable {ε : Type} {floor? other : Nat → Except ε Int} {floors : Nat → Int} {top start level : Nat}

/-- The levels above the first and up to the top whose floor is not above that of the level before. -/
def falls (floors : Nat → Int) (top : Nat) : Set Nat :=
  { level | 2 ≤ level ∧ level ≤ top ∧ floors level ≤ floors (level - 1) }

theorem firstFall_iff_isLeast : FirstFall floors 2 top level ↔ IsLeast (falls floors top) level := by
  constructor
  · intro first
    refine ⟨⟨first.above, first.within, first.falls⟩, ?_⟩
    rintro earlier ⟨above, -, low⟩
    by_contra before
    exact absurd (first.rises earlier above (not_le.1 before)) (not_lt.2 low)
  · rintro ⟨⟨above, within, low⟩, least⟩
    refine ⟨above, within, low, fun earlier second before => ?_⟩
    by_contra stays
    exact absurd (least ⟨second, before.le.trans within, not_lt.1 stays⟩) (not_le.2 before)

theorem strictMonoOn_iff_falls : StrictMonoOn floors (Set.Icc 1 top) ↔ ∀ level, level ∉ falls floors top := by
  constructor
  · rintro rises level ⟨above, within, low⟩
    have lower : level - 1 ∈ Set.Icc 1 top := ⟨by omega, by omega⟩
    have upper : level ∈ Set.Icc 1 top := ⟨by omega, within⟩
    exact absurd (rises lower upper (by omega)) (not_lt.2 low)
  · intro none
    refine strictMonoOn_of_lt_add_one Set.ordConnected_Icc fun level _ member next => ?_
    by_contra stays
    exact none (level + 1) ⟨Nat.succ_le_succ member.1, next.2, not_lt.1 stays⟩

theorem exists_isLeast_falls (stays : ¬ StrictMonoOn floors (Set.Icc 1 top)) :
    ∃ level, IsLeast (falls floors top) level := by
  classical
  rw [strictMonoOn_iff_falls, not_forall_not] at stays
  exact ⟨_, Nat.isLeast_find stays⟩

/-- A check looks at the floors from where it begins up to the top. -/
theorem checkFrom_congr {previous : Int}
    (same : ∀ level, start ≤ level → level ≤ top → floor? level = other level) :
    checkFrom floor? top start previous = checkFrom other top start previous := by
  induction start, previous using checkFrom.induct floor? top with
  | case1 start previous inside fault found =>
    rw [checkFrom, checkFrom, if_pos inside, if_pos inside, ← same start le_rfl inside, found]
  | case2 start previous inside floor found low =>
    rw [checkFrom, checkFrom, if_pos inside, if_pos inside, ← same start le_rfl inside, found]
    dsimp only
    rw [if_pos low, if_pos low]
  | case3 start previous inside floor found high ih =>
    rw [checkFrom, checkFrom, if_pos inside, if_pos inside, ← same start le_rfl inside, found]
    dsimp only
    rw [if_neg high, if_neg high]
    exact ih fun level above => same level (Nat.le_of_succ_le above)
  | case4 start previous outside => rw [checkFrom, checkFrom, if_neg outside, if_neg outside]

/-- A curve whose floors can be computed is refused for the first level that does not rise. -/
theorem check_eq_error_iff {fault : Fault ε} (first : floors 1 = 0)
    (computed : ∀ level ∈ Set.Icc 2 top, floor? level = .ok (floors level)) : check floor? top = .error fault ↔
      ∃ level, IsLeast (falls floors top) level ∧ fault = .plateau level (floors level) (floors (level - 1)) := by
  have listed : check floor? top = check (fun level => .ok (floors level)) top :=
    checkFrom_congr fun level above within => computed level ⟨above, within⟩
  rw [listed, check, checkFrom_listed_eq_error_iff first.symm]
  exact exists_congr fun level => and_congr_left fun _ => firstFall_iff_isLeast

/-- A curve whose floors can be computed passes if they rise strictly from the first level up to the top. -/
theorem check_eq_ok_iff (first : floors 1 = 0)
    (computed : ∀ level ∈ Set.Icc 2 top, floor? level = .ok (floors level)) :
    check floor? top = .ok () ↔ StrictMonoOn floors (Set.Icc 1 top) := by
  constructor
  · intro passed
    by_contra stays
    obtain ⟨level, least⟩ := exists_isLeast_falls stays
    cases passed.symm.trans ((check_eq_error_iff first computed).2 ⟨level, least, rfl⟩)
  · intro rises
    cases outcome : check floor? top with
    | ok => rfl
    | error fault =>
      obtain ⟨level, least, -⟩ := (check_eq_error_iff first computed).1 outcome
      exact absurd least.1 (strictMonoOn_iff_falls.1 rises level)

/-- The floors that computed numbers are once they are rounded down and clamped. The first level needs nothing, whatever
is computed for it; the undefined number, which is no XP, counts as nothing. -/
def clampedFloors (numbers : Nat → Float) (level : Nat) : Int :=
  if level ≤ 1 then 0 else (clampFloor? (numbers level)).getD 0

variable {numbers : Nat → Float}

theorem clampedFloors_one : clampedFloors numbers 1 = 0 := if_pos le_rfl

theorem clampedFloors_mem : 0 ≤ clampedFloors numbers level ∧ clampedFloors numbers level ≤ maxXp := by
  rw [clampedFloors]
  split
  · decide
  · cases clamped : clampFloor? (numbers level) with
    | none => decide
    | some floor => exact clampFloor?_mem clamped

theorem clampedFloors_of_some {floor : Int} (second : 2 ≤ level) (clamped : clampFloor? (numbers level) = some floor) :
    clampedFloors numbers level = floor := by
  rw [clampedFloors, if_neg (by omega), clamped, Option.getD_some]

theorem mem_falls_of_undefined (member : level ∈ Set.Icc 2 top) (undefined : clampFloor? (numbers level) = none) :
    level ∈ falls (clampedFloors numbers) top := by
  have above := member.1
  refine ⟨above, member.2, ?_⟩
  rw [clampedFloors, if_neg (by omega), undefined]
  exact clampedFloors_mem.1

/-- Floors are the clamped numbers, and a fault where a number is undefined. -/
def Clamps (floor? : Nat → Except FloorFault Int) (numbers : Nat → Float) (top : Nat) : Prop :=
  ∀ level ∈ Set.Icc 2 top, floor? level = (clampFloor? (numbers level)).elim (.error .undefined) .ok

variable {floor? : Nat → Except FloorFault Int}

theorem Clamps.computed (clamps : Clamps floor? numbers top) {level : Nat} (member : level ∈ Set.Icc 2 top)
    (defined : clampFloor? (numbers level) ≠ none) : floor? level = .ok (clampedFloors numbers level) := by
  obtain ⟨floor, clamped⟩ := Option.ne_none_iff_exists'.1 defined
  rw [clamps level member, clampedFloors_of_some member.1 clamped, clamped]
  rfl

/-- Clamped numbers pass a check if they rise strictly; an undefined number lets neither happen. -/
theorem Clamps.check_eq_ok_iff (clamps : Clamps floor? numbers top) :
    check floor? top = .ok () ↔ StrictMonoOn (clampedFloors numbers) (Set.Icc 1 top) := by
  -- Where a number is undefined, the check fails there at the latest, and the floors do not rise there.
  by_cases defined : ∀ level ∈ Set.Icc 2 top, clampFloor? (numbers level) ≠ none
  · exact Curve.check_eq_ok_iff clampedFloors_one fun level member => clamps.computed member (defined level member)
  · push Not at defined
    obtain ⟨level, member, undefined⟩ := defined
    refine iff_of_false ?_ ?_
    · intro passed
      obtain ⟨floor, computed⟩ := floor?_ok_of_checkFrom passed member.1 member.2
      rw [clamps level member, undefined] at computed
      cases computed
    · intro rises
      exact strictMonoOn_iff_falls.1 rises level (mem_falls_of_undefined member undefined)

theorem Clamps.floorAt_eq (clamps : Clamps floor? numbers top) (checked : check floor? top = .ok ())
    (member : level ∈ Set.Icc 1 top) : floorAt floor? top checked level = clampedFloors numbers level := by
  rcases Nat.eq_or_lt_of_le member.1 with rfl | above
  · rw [clampedFloors_one]
    exact floorAt_of_le_one checked le_rfl
  · have inside : level ∈ Set.Icc 2 top := ⟨above, member.2⟩
    have computed := floor?_eq_floorAt checked (Int.ofNat_lt.2 above) (Int.ofNat_le.2 member.2)
    rw [Int.toNat_natCast, clamps level inside, elim_eq_ok] at computed
    exact (clampedFloors_of_some above computed).symm

/-- What becomes of a formula whose floors are to be computed numbers: whether it is made hangs on the clamped numbers
alone. -/
structure MadeIfRising {α : Type} (outcome : Except FormulaFault α) (curve : ComputedCurve)
    (floorOf : α → Int → Int) (numbers : Nat → Float) (top : Nat) : Prop where
  made_iff : (∃ formula, outcome = .ok formula) ↔ StrictMonoOn (clampedFloors numbers) (Set.Icc 1 top)
  /-- The floors of the formula are the clamped numbers. -/
  floors : ∀ formula, outcome = .ok formula →
    ∀ level ∈ Set.Icc 1 top, floorOf formula level = clampedFloors numbers level
  /-- At most the top needs the greatest XP. -/
  saturates : ∀ formula, outcome = .ok formula →
    ∀ level ∈ Set.Icc 1 top, floorOf formula level = maxXp → level = top
  /-- Where all numbers are defined, the first level that does not rise is told. -/
  refused : (∀ level ∈ Set.Icc 2 top, clampFloor? (numbers level) ≠ none) →
    ∀ level, IsLeast (falls (clampedFloors numbers) top) level → outcome = .error
      (.plateau curve level (clampedFloors numbers level) (clampedFloors numbers (level - 1)))

/-- A formula that is made if its curve passes the check, and refused with it, is made just if the numbers rise. -/
theorem Clamps.madeIfRising {α : Type} {outcome : Except FormulaFault α} {curve : ComputedCurve}
    {floorOf : α → Int → Int} (clamps : Clamps floor? numbers top)
    (accepted : ∀ checked : check floor? top = .ok (),
      ∃ formula, outcome = .ok formula ∧ floorOf formula = floorAt floor? top checked)
    (refused : ∀ fault, check floor? top = .error fault → outcome = .error (.ofCurve curve fault)) :
    MadeIfRising outcome curve floorOf numbers top := by
  have passes {formula : α} (made : outcome = .ok formula) : check floor? top = .ok () := by
    cases checked : check floor? top with
    | ok => rfl
    | error fault => cases made.symm.trans (refused fault checked)
  have floors (formula : α) (made : outcome = .ok formula) (level : Nat) (member : level ∈ Set.Icc 1 top) :
      floorOf formula level = clampedFloors numbers level := by
    obtain ⟨same, remade, floors⟩ := accepted (passes made)
    cases made.symm.trans remade
    rw [floors, clamps.floorAt_eq (passes made) member]
  refine ⟨?_, floors, ?_, ?_⟩
  · rw [← clamps.check_eq_ok_iff]
    constructor
    · rintro ⟨formula, made⟩
      exact passes made
    · intro checked
      exact (accepted checked).imp fun _ => And.left
  · intro formula made level member greatest
    have rises := clamps.check_eq_ok_iff.1 (passes made)
    by_contra other
    have below : level < top := lt_of_le_of_ne member.2 other
    have higher := rises member ⟨member.1.trans member.2, le_rfl⟩ below
    have capped : clampedFloors numbers top ≤ maxXp := clampedFloors_mem.2
    rw [floors formula made level member] at greatest
    omega
  · intro defined level least
    refine refused _ ((check_eq_error_iff clampedFloors_one ?_).2 ⟨level, least, rfl⟩)
    exact fun level member => clamps.computed member (defined level member)

end Curve

namespace Exponential

variable {base power : PositiveParameter} {top : Nat}

/-- The number that is computed for a level. -/
def numberAt (base power : PositiveParameter) (level : Nat) : Float :=
  base.value * (ofInt (level - 1 : Nat)).pow power.value

theorem make?_of_parameters (positive : 1 ≤ top) :
    Curve.MadeIfRising (make? base.given power.given (.int top)) (.exponential base.given power.given) xpForLevel
      (numberAt base power) top := by
  have clamps : Curve.Clamps (exponentialFloor base.value power.value) (numberAt base power) top := fun _ _ => rfl
  refine clamps.madeIfRising (fun checked => ⟨_, make?_of_checked positive checked, rfl⟩) fun fault failed => ?_
  refine bind_eq_error.2 (.inr ⟨_, PositiveParameter.check_self, ?_⟩)
  refine bind_eq_error.2 (.inr ⟨_, PositiveParameter.check_self, ?_⟩)
  refine bind_eq_error.2 (.inr ⟨_, checkMaxLevel_natCast positive, ?_⟩)
  dsimp only
  split
  · rename_i found
    cases found.symm.trans failed
    rfl
  · rename_i checked
    cases checked.symm.trans failed

end Exponential

namespace Custom

variable {expression : String} {constants : Entries String Value} {term : Term} {numbers : Nat → Float} {top : Nat}

theorem make?_of_term (positive : 1 ≤ top) (compiled : compile expression levelName constants = .ok term)
    (evaluated : ∀ level ∈ Set.Icc 2 top, ∃ x, ofInt? level = some x ∧ term.evaluate x = .ok (numbers level)) :
    Curve.MadeIfRising (make? expression constants (.int top)) (.custom expression) xpForLevel numbers top := by
  have clamps : Curve.Clamps (expressionFloor expression term) numbers top := by
    intro level member
    obtain ⟨x, denotes, worked⟩ := evaluated level member
    rw [expressionFloor, denotes, Option.elim_some]
    change (term.evaluate x).mapError _ >>= _ = _
    rw [worked]
    rfl
  refine clamps.madeIfRising (fun checked => ?_) fun fault failed => ?_
  · obtain ⟨_, notEmpty, rest⟩ := bind_eq_ok.1 compiled
    obtain ⟨all, given, written⟩ := bind_eq_ok.1 rest
    obtain ⟨sorted, numbered⟩ := exists_checkConstants_sorted ⟨all, given⟩
    rw [← compileOver_sorted given numbered] at written
    exact ⟨_, make?_of_checked positive notEmpty given numbered written checked, rfl⟩
  · -- The stages of making a formula end with the check, which is where this one fails.
    have staged : (make? expression constants (.int top)).map (fun _ => ()) = _ := make?_staged
    rw [checkMaxLevel_natCast positive, compiled] at staged
    change _ = (Curve.check (expressionFloor expression term) top).mapError _ at staged
    rw [failed, mapError_error] at staged
    cases outcome : make? expression constants (.int top) with
    | ok formula =>
      rw [outcome] at staged
      cases staged
    | error cause =>
      rw [outcome] at staged
      exact congrArg _ (Except.error.inj staged)

end Custom

theorem FormulaFault.message_plateau {curve : ComputedCurve} {level : Nat} {xp previous : Int} :
    (plateau curve level xp previous).message = curve.label ++ ": level " ++ toString level ++ " needs " ++ toString xp ++
      " XP, which is not above level " ++ toString (level - 1) ++ " (" ++ toString previous ++ " XP)" ++
      ". Lower max_level or steepen the curve" := by
  have told : (plateau curve level xp previous).message
      = curve.label ++ floorComparison level xp previous ++ ". Lower max_level or steepen the curve" := rfl
  have compared : floorComparison level xp previous = ": level " ++ toString level ++ " needs " ++ toString xp ++
      " XP, which is not above level " ++ toString (level - 1) ++ " (" ++ toString previous ++ " XP)" := rfl
  simp only [told, compared, String.append_assoc]

/-- A check passes just if the floors rise strictly from the first level, which needs nothing, up to the top, and otherwise
tells the first level that is not above the one before it, with both floors. An exponential formula with parameters
that are finite and above zero, and a custom formula whose expression has a value at every level, is thus made just if
the computed numbers rise strictly once they are clamped, and at most its top needs the greatest XP. -/
theorem rising_curves_accepted :
    (∀ (floors : Nat → Int) (top : Nat), floors 1 = 0 →
      (Curve.check (ε := FloorFault) (fun level => .ok (floors level)) top = .ok () ↔
        StrictMonoOn floors (Set.Icc 1 top)) ∧
      (¬ StrictMonoOn floors (Set.Icc 1 top) → ∃ level, IsLeast (Curve.falls floors top) level ∧
        Curve.check (ε := FloorFault) (fun level => .ok (floors level)) top
          = .error (.plateau level (floors level) (floors (level - 1))))) ∧
    (∀ (curve : ComputedCurve) (level : Nat) (xp previous : Int),
      (FormulaFault.ofCurve curve (.plateau level xp previous)).kind = .configuration ∧
      (FormulaFault.ofCurve curve (.plateau level xp previous)).message = curve.label ++ ": level " ++ toString level ++
        " needs " ++ toString xp ++ " XP, which is not above level " ++ toString (level - 1) ++ " (" ++
        toString previous ++ " XP)" ++ ". Lower max_level or steepen the curve") ∧
    (∀ (base power : PositiveParameter) (top : Nat), 1 ≤ top →
      Curve.MadeIfRising (Exponential.make? base.given power.given (.int top))
        (.exponential base.given power.given) Exponential.xpForLevel (Exponential.numberAt base power) top) ∧
    (∀ expression constants term numbers (top : Nat), 1 ≤ top →
      compile expression levelName constants = .ok term →
      (∀ level ∈ Set.Icc 2 top, ∃ x, ofInt? level = some x ∧ term.evaluate x = .ok (numbers level)) →
      Curve.MadeIfRising (Custom.make? expression constants (.int top)) (.custom expression) Custom.xpForLevel numbers
        top) := by
  refine ⟨fun floors top first => ?_, fun curve level xp previous => ?_, ?_, ?_⟩
  · have computed : ∀ level ∈ Set.Icc 2 top, (Except.ok (floors level) : Except FloorFault Int) = .ok (floors level) :=
      fun _ _ => rfl
    refine ⟨Curve.check_eq_ok_iff first computed, fun stays => ?_⟩
    obtain ⟨level, least⟩ := Curve.exists_isLeast_falls stays
    exact ⟨level, least, (Curve.check_eq_error_iff first computed).2 ⟨level, least, rfl⟩⟩
  · exact ⟨rfl, FormulaFault.message_plateau⟩
  · intro base power top positive
    exact Exponential.make?_of_parameters positive
  · intro expression constants term numbers top positive compiled evaluated
    exact Custom.make?_of_term positive compiled evaluated

/-- Floors that rise up to the third level only. -/
def stalled (level : Nat) : Int := (min level 3 : Nat) - 1

/-- Stalled floors are refused at the fourth level. An exponential formula of one level is made, and so is a custom one of
two levels whose floors rise. -/
theorem rising_curves_accepted_stalled :
    Curve.check (ε := FloorFault) (fun level => .ok (stalled level)) 5 = .error (.plateau 4 2 2) ∧
      (∃ formula, Exponential.make? (.float 100) (.float 1.7) (.int 1) = .ok formula) ∧
      ∃ formula, Custom.make? "100*level" .empty (.int 2) = .ok formula ∧ formula.xpForLevel 2 = 200 := by
  obtain ⟨checks, -, exponential, custom⟩ := rising_curves_accepted
  obtain ⟨⟨finite, positive⟩, ⟨finitePower, positivePower⟩, second, clamped⟩ :
      ((100 : Float).isFinite = true ∧ (0 : Float) < 100) ∧ ((1.7 : Float).isFinite = true ∧ (0 : Float) < 1.7) ∧
        ((compile "100*level" levelName .empty).toOption.bind fun term => (ofInt? 2).bind fun x =>
          (term.evaluate x).toOption) = some 200 ∧ clampFloor? 200 = some 200 := by decide +kernel
  refine ⟨?_, ?_, ?_⟩
  · have least : IsLeast (Curve.falls stalled 5) 4 := by
      refine ⟨⟨by decide, by decide, by decide⟩, ?_⟩
      rintro level ⟨above, -, low⟩
      simp only [stalled] at low
      omega
    have stays : ¬ StrictMonoOn stalled (Set.Icc 1 5) :=
      fun rises => Curve.strictMonoOn_iff_falls.1 rises 4 least.1
    obtain ⟨level, found, refused⟩ := (checks stalled 5 rfl).2 stays
    rw [refused, found.unique least]
    rfl
  · let base : PositiveParameter := ⟨.float 100, 100, rfl, rfl, finite, positive⟩
    let power : PositiveParameter := ⟨.float 1.7, 1.7, rfl, rfl, finitePower, positivePower⟩
    refine (exponential base power 1 le_rfl).made_iff.2 ?_
    rw [Set.Icc_self]
    exact Set.subsingleton_singleton.strictMonoOn _
  · obtain ⟨term, compiled, second⟩ := Option.bind_eq_some_iff.1 second
    obtain ⟨x, denotes, worked⟩ := Option.bind_eq_some_iff.1 second
    have evaluated : ∀ level ∈ Set.Icc 2 2, ∃ x, ofInt? (level : Nat) = some x ∧ term.evaluate x = .ok 200 := by
      rintro level ⟨above, within⟩
      obtain rfl := Nat.le_antisymm within above
      exact ⟨x, denotes, toOption_eq_some.1 worked⟩
    have made := custom "100*level" .empty term (fun _ => 200) 2 (by decide) (toOption_eq_some.1 compiled) evaluated
    have upper : Curve.clampedFloors (fun _ => 200) 2 = 200 := Curve.clampedFloors_of_some le_rfl clamped
    have rises : StrictMonoOn (Curve.clampedFloors fun _ => 200) (Set.Icc 1 2) := by
      refine Curve.strictMonoOn_iff_falls.2 ?_
      rintro level ⟨above, within, low⟩
      obtain rfl := Nat.le_antisymm within above
      rw [upper, Curve.clampedFloors_one] at low
      exact absurd low (by decide)
    obtain ⟨formula, outcome⟩ := made.made_iff.2 rises
    exact ⟨formula, outcome, (made.floors formula outcome 2 ⟨by decide, le_rfl⟩).trans upper⟩

end Progression
