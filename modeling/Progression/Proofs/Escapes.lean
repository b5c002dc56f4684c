import Progression.Proofs.Descriptor
import Progression.Proofs.Floors
import Progression.Proofs.Numeral
import Progression.Proofs.Wholes

namespace Progression

open Number Text Expression

namespace Number

/-- Whether a message can show an integer: without its sign, the text of it has no more digits than such texts may have. -/
def Displayable (n : Int) : Prop := (toString n.natAbs).length ≤ maxIntegerDigits

instance (n : Int) : Decidable (Displayable n) := inferInstanceAs (Decidable (_ ≤ _))

theorem displayable_iff {n : Int} : Displayable n ↔ n.natAbs < 10 ^ maxIntegerDigits := length_toString_le_iff

theorem displayable_of_le {n bound : Int} (positive : 0 ≤ n) (below : n ≤ bound) (fits : Displayable bound) :
    Displayable n := by
  rw [displayable_iff] at fits ⊢
  omega

theorem displayable_of_ofInt? {n : Int} {x : Float} (denotes : ofInt? n = some x) : Displayable n := by
  have bits : n.natAbs.log2 + 1 ≤ maxIntegerDigits := le_trans (log2_natAbs_of_ofInt? denotes) (by decide)
  rw [displayable_iff]
  calc n.natAbs < 2 ^ (n.natAbs.log2 + 1) := Nat.lt_log2_self
    _ ≤ 2 ^ maxIntegerDigits := Nat.pow_le_pow_right (by decide) bits
    _ ≤ 10 ^ maxIntegerDigits := Nat.pow_le_pow_left (by decide) _

end Number

namespace Value

mutual

/-- The integers that a value shows. -/
def integers : Value → List Int
  | int n => [n]
  | list items => integersOfAll items
  | map entries => integersOfEntries entries
  | _ => []

def integersOfAll : List Value → List Int
  | [] => []
  | item :: rest => item.integers ++ integersOfAll rest

def integersOfEntries : List (String × Value) → List Int
  | [] => []
  | (_, value) :: rest => value.integers ++ integersOfEntries rest

end

/-- Whether a value is given as a number or as a text. -/
def IsPlain (value : Value) : Prop := value.isNumber = true ∨ ∃ content, value = .text content

theorem displayable_of_toFloat {given : Value} {x : Float} (plain : given.IsPlain) (denotes : given.toFloat = .ok x) :
    ∀ n ∈ given.integers, Displayable n := by
  cases given with
  | int n =>
    intro shown member
    obtain rfl : shown = n := by simpa [integers] using member
    rw [toFloat] at denotes
    exact displayable_of_ofInt? (elim_eq_ok.1 denotes)
  | float | text => simp [integers]
  | null | bool | list | map => simp [IsPlain, isNumber] at plain

/-- Among numbers and texts, only integers are too large, and only texts are no numbers. -/
theorem toFloat_cases {given : Value} (plain : given.IsPlain) :
    (∃ x, given.toFloat = .ok x) ∨ given.toFloat = .error .tooLarge ∨
      given.toFloat = .error .unreadable ∧ given.integers = [] ∧ given.isNumber = false := by
  cases given with
  | int n =>
    rw [toFloat]
    cases ofInt? n with
    | none => exact .inr (.inl rfl)
    | some x => exact .inl ⟨x, rfl⟩
  | float x => exact .inl ⟨x, rfl⟩
  | text content =>
    rw [toFloat]
    cases readFloat? content.toList with
    | none => exact .inr (.inr ⟨rfl, rfl, rfl⟩)
    | some x => exact .inl ⟨x, rfl⟩
  | null | bool | list | map => simp [IsPlain, isNumber] at plain

end Value

/-! What faults show, and what they are once they are told. -/

def ComputedCurve.integers : ComputedCurve → List Int
  | exponential baseXp exponent => baseXp.integers ++ exponent.integers
  | custom _ => []

namespace Expression.Refusal

/-- The integers that a refusal shows. -/
def integers : Refusal → List Int
  | constant _ (.notNumeric value) => value.integers
  | constant _ (.notFinite value) => value.integers
  | unsupportedLiteral (.int value) => [value]
  | _ => []

/-- The source text of which a refusal shows a piece as syntax, written anew. -/
def piece? : Refusal → Option String
  | undeclaredFunction none source => some source
  | unsupported source => some source
  | _ => none

end Expression.Refusal

namespace FormulaFault

/-- The integers that the message of a fault shows. -/
def integers : FormulaFault → List Int
  | notPositive _ given => given.integers
  | maxLevel given => given.integers
  | xpPerLevel given => given.integers
  | linearRange step top => [step, top]
  | firstFloor _ xp => [xp]
  | tableOrder _ level xp previous => [(level : Int), xp, previous]
  | refused refusal => refusal.integers
  | floor (.expression _ level _) => [level]
  | plateau curve level xp previous => curve.integers ++ [(level : Int), xp, previous]
  | unknownKind _ | tooLarge | noLevels _ | floor .undefined => []

/-- The source text of which the message of a fault shows a piece as syntax. -/
def piece? : FormulaFault → Option String
  | refused refusal => refusal.piece?
  | _ => none

section Told

variable (writable : String → Bool) {fault : FormulaFault}

/-- The message of a fault can be written. Of which source texts a piece can be written as syntax, `writable` says. -/
def Tellable (fault : FormulaFault) : Prop :=
  (∀ n ∈ fault.integers, Displayable n) ∧ ∀ source ∈ fault.piece?, writable source = true

instance : Decidable (Tellable writable fault) := inferInstanceAs (Decidable (_ ∧ _))

/-- The kind of fault that a caller meets: where a message cannot be written, that is the fault. -/
def raised (fault : FormulaFault) : FaultKind := if fault.Tellable writable then fault.kind else .value

variable {writable}

theorem raised_of_displayable (whole : fault.piece? = none) (shown : ∀ n ∈ fault.integers, Displayable n) :
    fault.raised writable = fault.kind := by
  refine if_pos ⟨shown, ?_⟩
  simp [whole]

theorem raised_ne_configuration (other : fault.kind ≠ .configuration) : fault.raised writable ≠ .configuration := by
  rw [raised]
  split
  · exact other
  · decide

theorem raised_of_not_tellable (untold : ¬ fault.Tellable writable) : fault.raised writable ≠ .configuration := by
  rw [raised, if_neg untold]
  decide

theorem raised_of_unwritable {source : String} (piece : fault.piece? = some source)
    (unwritable : writable source = false) : fault.raised writable ≠ .configuration := by
  refine raised_of_not_tellable fun told => ?_
  cases unwritable.symm.trans (told.2 source piece)

theorem raised_ne_configuration_iff (configuration : fault.kind = .configuration) (whole : fault.piece? = none) :
    fault.raised writable ≠ .configuration ↔ ¬ ∀ n ∈ fault.integers, Displayable n := by
  constructor
  · intro other shown
    exact other ((raised_of_displayable whole shown).trans configuration)
  · intro long
    exact raised_of_not_tellable fun told => long told.1

end Told

end FormulaFault

/-- What was to be made fails, and the fault is not one of configuration. -/
def Escapes {α : Type} (writable : String → Bool) (outcome : Except FormulaFault α) : Prop :=
  ∃ fault, outcome = .error fault ∧ fault.raised writable ≠ .configuration

variable {writable : String → Bool}

theorem escapes_error_iff {α : Type} {fault : FormulaFault} :
    Escapes writable (.error fault : Except FormulaFault α) ↔ fault.raised writable ≠ .configuration := by
  simp [Escapes]

theorem not_escapes_ok {α : Type} {made : α} : ¬ Escapes writable (.ok made) := by
  rintro ⟨fault, failed, -⟩
  cases failed

theorem escapes_map {α β : Type} {outcome : Except FormulaFault α} (change : α → β) :
    Escapes writable (outcome.map change) ↔ Escapes writable outcome := by
  cases outcome with
  | error fault => rw [Except.map, escapes_error_iff, escapes_error_iff]
  | ok value => exact iff_of_false not_escapes_ok not_escapes_ok

theorem escapes_bind {α β : Type} {outcome : Except FormulaFault α} {next : α → Except FormulaFault β} :
    Escapes writable (outcome >>= next) ↔
      Escapes writable outcome ∨ ∃ value, outcome = .ok value ∧ Escapes writable (next value) := by
  constructor
  · rintro ⟨fault, failed, escapes⟩
    rcases bind_eq_error.1 failed with failed | ⟨value, passed, failed⟩
    · exact .inl ⟨fault, failed, escapes⟩
    · exact .inr ⟨value, passed, fault, failed, escapes⟩
  · rintro (⟨fault, failed, escapes⟩ | ⟨value, passed, fault, failed, escapes⟩)
    · exact ⟨fault, bind_eq_error.2 (.inl failed), escapes⟩
    · exact ⟨fault, bind_eq_error.2 (.inr ⟨value, passed, failed⟩), escapes⟩

section Parameters

variable {name : String} {given : Value} {fault : FormulaFault} {top : Int}

theorem checkMaxLevel_of_pos (positive : 1 ≤ top) : ∃ checked, checkMaxLevel (.int top) = .ok checked := by
  rw [checkMaxLevel, dif_pos positive]
  exact ⟨_, rfl⟩

theorem not_escapes_checkMaxLevel (shown : Displayable top) : ¬ Escapes writable (checkMaxLevel (.int top)) := by
  rw [checkMaxLevel]
  split
  · exact not_escapes_ok
  · rw [escapes_error_iff, FormulaFault.raised_ne_configuration_iff rfl rfl, not_not]
    simpa [FormulaFault.integers, Value.integers] using shown

theorem PositiveParameter.exists_check_iff (name : String) (number : given.isNumber = true) :
    (∃ checked, check name given = .ok checked) ↔ ∃ x, given.toFloat = .ok x ∧ x.isFinite = true ∧ 0 < x := by
  constructor
  · rintro ⟨checked, accepted⟩
    exact ⟨checked.value, Exponential.check_given accepted ▸ checked.denotes, checked.finite, checked.positive⟩
  · rintro ⟨x, denotes, finite, positive⟩
    rw [check, dif_pos number]
    split
    · rename_i refused
      cases denotes.symm.trans refused
    · rename_i found
      obtain rfl := Except.ok.inj (found.symm.trans denotes)
      rw [dif_pos finite, dif_pos positive]
      exact ⟨_, rfl⟩

/-- Numbers that are too large are refused as such, and others by a fault of configuration. -/
theorem PositiveParameter.escapes_iff (number : given.isNumber = true) :
    Escapes writable (check name given) ↔ given.toFloat = .error .tooLarge := by
  rw [check, dif_pos number]
  split
  · rename_i reason refused
    have large : given.toFloat = .error .tooLarge := by
      rcases Value.toFloat_cases (.inl number) with ⟨x, denotes⟩ | large | ⟨-, -, text⟩
      · cases refused.symm.trans denotes
      · exact large
      · cases number.symm.trans text
    have other : FormulaFault.tooLarge.kind ≠ .configuration := by decide
    exact iff_of_true (escapes_error_iff.2 (FormulaFault.raised_ne_configuration other)) large
  · rename_i x denotes
    have shown : ∀ n ∈ (FormulaFault.notPositive name given).integers, Displayable n :=
      Value.displayable_of_toFloat (.inl number) denotes
    have small : given.toFloat ≠ .error .tooLarge := by
      intro large
      cases denotes.symm.trans large
    refine iff_of_false ?_ small
    split_ifs
    · exact not_escapes_ok
    all_goals
      rw [escapes_error_iff, FormulaFault.raised_ne_configuration_iff rfl rfl]
      exact not_not_intro shown

end Parameters

namespace Curve

variable {ε : Type} {floor? : Nat → Except ε Int} {floors : Nat → Int} {top start : Nat}

/-- What can be wrong with a curve is at one of its levels. -/
inductive FaultAt (floor? : Nat → Except ε Int) (level : Nat) : Fault ε → Prop
  | floor {fault : ε} (failed : floor? level = .error fault) : FaultAt floor? level (.floor fault)
  | plateau {xp previous : Int} (computed : floor? level = .ok xp)
    (before : previous = 0 ∨ ∃ lower, floor? lower = .ok previous) : FaultAt floor? level (.plateau level xp previous)

theorem faultAt_of_checkFrom {previous : Int} {fault : Fault ε}
    (before : previous = 0 ∨ ∃ lower, floor? lower = .ok previous)
    (failed : checkFrom floor? top start previous = .error fault) : ∃ level ≤ top, FaultAt floor? level fault := by
  induction start, previous using checkFrom.induct floor? top with
  | case1 start previous inside cause found =>
    rw [checkFrom, if_pos inside, found] at failed
    cases failed
    exact ⟨start, inside, .floor found⟩
  | case2 start previous inside xp found low =>
    rw [checkFrom, if_pos inside, found] at failed
    dsimp only at failed
    rw [if_pos low] at failed
    cases failed
    exact ⟨start, inside, .plateau found before⟩
  | case3 start previous inside xp found high ih =>
    rw [checkFrom, if_pos inside, found] at failed
    dsimp only at failed
    rw [if_neg high] at failed
    exact ih (.inr ⟨start, found⟩) failed
  | case4 start previous outside =>
    rw [checkFrom, if_neg outside] at failed
    cases failed

/-- The first level from one on, up to the top, whose floor is not above the one before it. -/
structure FirstFall (floors : Nat → Int) (start top level : Nat) : Prop where
  above : start ≤ level
  within : level ≤ top
  falls : floors level ≤ floors (level - 1)
  rises : ∀ earlier, start ≤ earlier → earlier < level → floors (earlier - 1) < floors earlier

/-- Listed floors are refused at the first level where they do not rise. -/
theorem checkFrom_listed_eq_error_iff {previous : Int} {fault : Fault ε} (before : previous = floors (start - 1)) :
    checkFrom (fun level => .ok (floors level)) top start previous = .error fault ↔
      ∃ level, FirstFall floors start top level ∧ fault = .plateau level (floors level) (floors (level - 1)) := by
  induction start, previous using checkFrom.induct (ε := ε) (fun level => .ok (floors level)) top with
  | case1 start previous inside cause found => cases found
  | case2 start previous inside xp found low =>
    cases found
    subst before
    rw [checkFrom, if_pos inside]
    dsimp only
    rw [if_pos low]
    constructor
    · rintro ⟨⟩
      exact ⟨start, ⟨le_rfl, inside, low, fun earlier above below => absurd below (Nat.not_lt.2 above)⟩, rfl⟩
    · rintro ⟨level, first, rfl⟩
      have same : level = start := by
        by_contra other
        have rises := first.rises start le_rfl (lt_of_le_of_ne first.above (Ne.symm other))
        omega
      rw [same]
  | case3 start previous inside xp found high ih =>
    cases found
    subst before
    rw [checkFrom, if_pos inside]
    dsimp only
    rw [if_neg high, ih rfl]
    refine exists_congr fun level => and_congr_left fun _ => ⟨fun first => ?_, fun first => ?_⟩
    · refine ⟨Nat.le_of_succ_le first.above, first.within, first.falls, fun earlier above below => ?_⟩
      rcases Nat.eq_or_lt_of_le above with rfl | later
      · exact not_le.1 high
      · exact first.rises earlier later below
    · have above : start + 1 ≤ level := by
        rcases Nat.eq_or_lt_of_le first.above with rfl | later
        · exact absurd first.falls high
        · exact later
      refine ⟨above, first.within, first.falls, fun earlier above below => ?_⟩
      exact first.rises earlier (Nat.le_of_succ_le above) below
  | case4 start previous outside =>
    rw [checkFrom, if_neg outside]
    constructor
    · rintro ⟨⟩
    · rintro ⟨level, first, -⟩
      exact absurd (first.above.trans first.within) outside

end Curve

section Curves

variable {curve : ComputedCurve} {top level : Nat} {fault : Curve.Fault FloorFault} {floor? : Nat → Except FloorFault Int}

theorem displayable_of_inRange {xp : Int} (inRange : 0 ≤ xp ∧ xp ≤ maxXp) : Displayable xp :=
  displayable_of_le inRange.1 inRange.2 (by decide +kernel)

/-- Whatever is wrong with a computed curve, it is a fault of configuration: floors are within the range of XP, and no
level is past the top. -/
theorem raised_ofCurve (labelled : ∀ n ∈ curve.integers, Displayable n) (shown : Displayable (top : Int))
    (inRange : ∀ level xp, floor? level = .ok xp → 0 ≤ xp ∧ xp ≤ maxXp)
    (levels : ∀ level cause, floor? level = .error cause → cause = .undefined ∨ ∃ source reason,
      cause = .expression source level reason)
    (failed : Curve.check floor? top = .error fault) :
    (FormulaFault.ofCurve curve fault).raised writable = .configuration := by
  obtain ⟨level, within, at_level⟩ := Curve.faultAt_of_checkFrom (.inl rfl) failed
  have level_shown : Displayable (level : Int) :=
    displayable_of_le (Int.natCast_nonneg level) (by exact_mod_cast within) shown
  cases at_level with
  | floor cause =>
    rcases levels level _ cause with rfl | ⟨source, reason, rfl⟩
    · rfl
    · refine FormulaFault.raised_of_displayable rfl ?_
      simpa [FormulaFault.ofCurve, FormulaFault.integers] using level_shown
  | @plateau xp previous computed before =>
    have xp_shown : Displayable xp := displayable_of_inRange (inRange level xp computed)
    have previous_shown : Displayable previous := by
      rcases before with rfl | ⟨lower, found⟩
      · decide +kernel
      · exact displayable_of_inRange (inRange lower previous found)
    refine FormulaFault.raised_of_displayable rfl fun n member => ?_
    rcases List.mem_append.1 member with label | member
    · exact labelled n label
    · rcases List.mem_cons.1 member with rfl | member
      · exact level_shown
      · rcases List.mem_pair.1 member with rfl | rfl
        · exact xp_shown
        · exact previous_shown

theorem exponentialFloor_inRange {baseXp exponent : Float} {xp : Int}
    (computed : exponentialFloor baseXp exponent level = .ok xp) : 0 ≤ xp ∧ xp ≤ maxXp :=
  clampFloor?_mem (elim_eq_ok.1 computed)

theorem expressionFloor_inRange {source : String} {term : Expression.Term} {xp : Int}
    (computed : expressionFloor source term level = .ok xp) : 0 ≤ xp ∧ xp ≤ maxXp := by
  obtain ⟨_, _, computed⟩ := bind_eq_ok.1 computed
  obtain ⟨_, _, computed⟩ := bind_eq_ok.1 computed
  exact clampFloor?_mem (elim_eq_ok.1 computed)

theorem expressionFloor_error {source : String} {term : Expression.Term} {cause : FloorFault}
    (failed : expressionFloor source term level = .error cause) :
    cause = .undefined ∨ ∃ source reason, cause = .expression source level reason := by
  rcases bind_eq_error.1 failed with failed | ⟨x, -, failed⟩
  · exact .inr ⟨source, .overflow, elim_eq_error failed⟩
  · rcases bind_eq_error.1 failed with failed | ⟨value, -, failed⟩
    · obtain ⟨reason, -, rfl⟩ := mapError_eq_error.1 failed
      exact .inr ⟨source, reason, rfl⟩
    · exact .inl (elim_eq_error failed)

end Curves

theorem Exponential.escapes_iff {baseXp exponent : Value} {top : Int} (base : baseXp.isNumber = true)
    (power : exponent.isNumber = true) (shown : Displayable top) :
    Escapes writable (make? baseXp exponent (.int top)) ↔ baseXp.toFloat = .error .tooLarge ∨
      (∃ x, baseXp.toFloat = .ok x ∧ x.isFinite = true ∧ 0 < x) ∧ exponent.toFloat = .error .tooLarge := by
  rw [make?, escapes_bind, PositiveParameter.escapes_iff base, ← PositiveParameter.exists_check_iff "base_xp" base]
  refine or_congr_right ⟨?_, ?_⟩
  · rintro ⟨checkedBase, accepted, escapes⟩
    rcases escapes_bind.1 escapes with large | ⟨checkedPower, acceptedPower, escapes⟩
    · exact ⟨⟨checkedBase, accepted⟩, (PositiveParameter.escapes_iff power).1 large⟩
    · rcases escapes_bind.1 escapes with escapes | ⟨⟨limit, positive⟩, acceptedTop, escapes⟩
      · exact absurd escapes (not_escapes_checkMaxLevel shown)
      · have same : Value.int top = .int limit := checkMaxLevel_ok acceptedTop
        have labelled : ∀ n ∈ (ComputedCurve.exponential baseXp exponent).integers, Displayable n := by
          intro n member
          rcases List.mem_append.1 member with member | member
          · exact Value.displayable_of_toFloat (.inl base) (check_given accepted ▸ checkedBase.denotes) n member
          · exact Value.displayable_of_toFloat (.inl power) (check_given acceptedPower ▸ checkedPower.denotes) n member
        dsimp only at escapes
        split at escapes
        · rename_i fault failed
          refine absurd ?_ (escapes_error_iff.1 escapes)
          exact raised_ofCurve labelled (Value.int.inj same ▸ shown) (fun _ _ => exponentialFloor_inRange)
            (fun _ _ undefined => .inl (elim_eq_error undefined)) failed
        · exact absurd escapes not_escapes_ok
  · rintro ⟨⟨checked, accepted⟩, large⟩
    exact ⟨checked, accepted, escapes_bind.2 (.inl ((PositiveParameter.escapes_iff power).2 large))⟩

theorem Linear.not_escapes {xpPerLevel top : Int} (step : Displayable xpPerLevel) (shown : Displayable top) :
    ¬ Escapes writable (make? (.int xpPerLevel) (.int top)) := by
  rw [make?, escapes_bind]
  rintro (escapes | ⟨checked, accepted, escapes⟩)
  · rw [checkXpPerLevel] at escapes
    split at escapes
    · exact not_escapes_ok escapes
    · refine (FormulaFault.raised_ne_configuration_iff rfl rfl).1 (escapes_error_iff.1 escapes) ?_
      simpa [FormulaFault.integers, Value.integers] using step
  · rcases escapes_bind.1 escapes with escapes | ⟨⟨limit, positive⟩, acceptedTop, escapes⟩
    · exact not_escapes_checkMaxLevel shown escapes
    · dsimp only at escapes
      split at escapes
      · exact not_escapes_ok escapes
      · have same : Value.int xpPerLevel = .int checked := checkXpPerLevel_ok accepted
        have same_top : Value.int top = .int limit := checkMaxLevel_ok acceptedTop
        refine (FormulaFault.raised_ne_configuration_iff rfl rfl).1 (escapes_error_iff.1 escapes) fun n member => ?_
        rcases List.mem_pair.1 member with rfl | rfl
        · exact Value.int.inj same ▸ step
        · exact Value.int.inj same_top ▸ shown

/-- Listed floors from zero on are refused at the first level where they do not rise. -/
theorem LevelTable.make?_eq_error_iff {floors : Array Int} {source : String} {fault : FormulaFault}
    (nonempty : 1 ≤ floors.size) (first : listedFloor floors 1 = 0) :
    make? floors source = .error fault ↔ ∃ level, Curve.FirstFall (listedFloor floors) 2 floors.size level ∧
      fault = .tableOrder source level (listedFloor floors level) (listedFloor floors (level - 1)) := by
  have faults {cause : Curve.Fault Empty} :
      Curve.check (fun level => .ok (listedFloor floors level)) floors.size = .error cause ↔
        ∃ level, Curve.FirstFall (listedFloor floors) 2 floors.size level ∧
          cause = .plateau level (listedFloor floors level) (listedFloor floors (level - 1)) :=
    Curve.checkFrom_listed_eq_error_iff first.symm
  rw [make?, dif_pos nonempty, dif_pos first]
  split
  · rename_i checked
    constructor
    · rintro ⟨⟩
    · rintro ⟨level, falls, -⟩
      cases checked.symm.trans (faults.2 ⟨level, falls, rfl⟩)
  · rename_i level xp previous checked
    obtain ⟨found, falls, same⟩ := faults.1 checked
    cases same
    constructor
    · rintro ⟨⟩
      exact ⟨level, falls, rfl⟩
    · rintro ⟨other, again, rfl⟩
      cases checked.symm.trans (faults.2 ⟨other, again, rfl⟩)
      rfl

/-- A table fails otherwise than by a fault of configuration if a floor that its message shows has too many digits. -/
theorem LevelTable.escapes_iff {floors : Array Int} {source : String} :
    Escapes writable (make? floors source) ↔ 1 ≤ floors.size ∧
      (¬ Displayable (listedFloor floors 1) ∨ listedFloor floors 1 = 0 ∧
        ∃ level, Curve.FirstFall (listedFloor floors) 2 floors.size level ∧ ¬ (Displayable level ∧
          Displayable (listedFloor floors level) ∧ Displayable (listedFloor floors (level - 1)))) := by
  have zero : Displayable 0 := by decide +kernel
  by_cases nonempty : 1 ≤ floors.size
  · by_cases first : listedFloor floors 1 = 0
    · rw [first]
      simp only [nonempty, zero, not_true_eq_false, false_or, true_and]
      constructor
      · rintro ⟨fault, failed, escapes⟩
        obtain ⟨level, falls, rfl⟩ := (make?_eq_error_iff nonempty first).1 failed
        refine ⟨level, falls, fun shown => ?_⟩
        refine (FormulaFault.raised_ne_configuration_iff rfl rfl).1 escapes ?_
        simpa [FormulaFault.integers] using shown
      · rintro ⟨level, falls, long⟩
        refine ⟨_, (make?_eq_error_iff nonempty first).2 ⟨level, falls, rfl⟩, ?_⟩
        refine (FormulaFault.raised_ne_configuration_iff rfl rfl).2 fun shown => long ?_
        simpa [FormulaFault.integers] using shown
    · rw [make?, dif_pos nonempty, dif_neg first, escapes_error_iff,
        FormulaFault.raised_ne_configuration_iff rfl rfl]
      simp [FormulaFault.integers, nonempty, first]
  · rw [make?, dif_neg nonempty, escapes_error_iff, FormulaFault.raised_ne_configuration_iff rfl rfl]
    simp [FormulaFault.integers, nonempty]

end Progression
