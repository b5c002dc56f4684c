import Progression.Proofs.Execution

namespace Progression

variable {L : Type}

namespace Formula

/-- The level nearest to an aim, of those from one to the top. -/
def landing (formula : Formula) (aim : Int) : Nat := (max 1 (min aim formula.maxLevel)).toNat

variable (formula : Formula) {aim : Int}

theorem natCast_landing : (formula.landing aim : Int) = max 1 (min aim formula.maxLevel) := by
  rw [landing]
  omega

theorem one_le_landing : (1 : Int) ≤ formula.landing aim := by
  rw [natCast_landing]
  exact le_max_left _ _

theorem landing_le_maxLevel : (formula.landing aim : Int) ≤ formula.maxLevel := by
  have positive := formula.maxLevel_pos
  rw [natCast_landing]
  omega

theorem landing_of_mem (first : 1 ≤ aim) (last : aim ≤ formula.maxLevel) : (formula.landing aim : Int) = aim := by
  rw [natCast_landing]
  omega

theorem floorNear_eq : Mutation.floorNear formula aim = formula.xpForLevel (formula.landing aim) := by
  have positive := formula.maxLevel_pos
  rw [Mutation.floorNear, natCast_landing]
  rcases le_or_gt aim 0 with low | above
  · rw [formula.xpForLevel_of_le_one (by omega), formula.xpForLevel_of_le_one (by omega)]
  · congr 1
    omega

/-- If levels cost something, who lands on a floor has its level. -/
theorem levelForXp_floor (costs : formula.isFree = false) :
    formula.levelForXp (formula.xpForLevel (formula.landing aim)) = formula.landing aim := by
  exact_mod_cast formula.levelForXp_xpForLevel costs formula.one_le_landing formula.landing_le_maxLevel

end Formula

/-- The notice of a move from a level to another one; none if it is the same. -/
def Notice.ofMove (identity : Identity) (old new : Nat) : List Notice :=
  if old < new then [.rose ⟨identity, old, new⟩] else if new < old then [.fell ⟨identity, old, new⟩] else []

namespace Mutation

/-- The level that a change aims at from a level, if it is a move by levels. -/
def aim? (level : Int) : Mutation → Option Int
  | addLevel levels => some (level + levels)
  | removeLevel levels => some (level - levels)
  | setLevel aim => some aim
  | _ => none

variable {formula : Formula} {mutation : Mutation} {xp level aim : Int}

theorem apply_of_aim (aims : mutation.aim? (formula.levelForXp xp) = some aim)
    (fits : formula.xpForLevel (formula.landing aim) ≤ maxXp) :
    mutation.apply formula xp = formula.xpForLevel (formula.landing aim) := by
  have target : mutation.target formula xp = floorNear formula aim := by
    cases mutation <;> cases aims <;> rfl
  have nonneg : 0 ≤ formula.xpForLevel (formula.landing aim) := formula.xpForLevel_nonneg
  rw [apply, target, formula.floorNear_eq, clampXp, max_eq_left nonneg, min_eq_left fits]

theorem answer_of_aim (aims : mutation.aim? level = some aim) :
    mutation.answer formula xp = .number (formula.levelForXp xp) := by
  cases mutation <;> cases aims <;> rfl

theorem notices_of_aim (aims : mutation.aim? level = some aim) {identity : Identity} {old new : Int} :
    mutation.notices formula identity old new
      = Notice.ofMove identity (formula.levelForXp old) (formula.levelForXp new) := by
  have told : mutation.notices formula identity old new
      = Notice.ofRise identity (formula.levelForXp old) (formula.levelForXp new)
        ++ Notice.ofFall identity (formula.levelForXp old) (formula.levelForXp new) := by
    cases mutation <;> cases aims <;> rfl
  rw [told, Notice.ofMove, Notice.ofRise, Notice.ofFall]
  split
  · rename_i rises
    rw [if_neg rises.not_gt, List.append_nil]
  · rfl

end Mutation

namespace Service

variable [DecidableEq L] {service : Service L} {start : State L} {identity : Identity} {mutation : Mutation} {aim : Int}

section Move

variable (costs : service.formula.isFree = false) (settled : start.Settled) (ready : start.store.Ready)
  (aims : mutation.aim? (service.formula.levelForXp (start.stored identity)) = some aim)
  (fits : service.formula.xpForLevel (service.formula.landing aim) ≤ maxXp)

include costs settled ready aims fits

/-- Up to the telling, a move by levels takes at most five steps, and by then the floor of the level on which it lands is
what is known and stored. -/
theorem steps_of_move :
    let landing := service.formula.landing aim
    ∃ count ≤ 5, service.steps {} count start { call := ⟨identity, .change mutation⟩ }
      = afterTelling { call := ⟨identity, .change mutation⟩ } (.number landing)
        (service.tell (enter start identity (service.formula.xpForLevel landing))
          (Notice.ofMove identity (service.formula.levelForXp (start.stored identity)) landing)) := by
  intro landing
  let task : Task L := { call := ⟨identity, .change mutation⟩ }
  let new := mutation.apply service.formula (start.stored identity)
  let notices := mutation.notices service.formula identity (start.stored identity) new
  have arrives : new = service.formula.xpForLevel landing := Mutation.apply_of_aim aims fits
  have level : service.formula.levelForXp new = landing := by rw [arrives, service.formula.levelForXp_floor costs]
  have tells : notices = Notice.ofMove identity (service.formula.levelForXp (start.stored identity)) landing := by
    rw [← level]
    exact Mutation.notices_of_aim aims
  have answers : mutation.answer service.formula new = .number landing := by
    rw [Mutation.answer_of_aim aims, level]
  have told : ∃ count ≤ 5, service.steps {} count start task
      = afterTelling task (mutation.answer service.formula new) (service.tell (enter start identity new) notices) :=
    steps_of_change (settled.serves ready identity) rfl []
  rw [answers, tells, arrives] at told
  exact told

theorem outcome_of_move {limit : Nat} {outcome : Outcome}
    (returns : (service.perform {} limit start ⟨identity, .change mutation⟩).2 = some outcome) :
    outcome = .ok (.number (service.formula.landing aim)) := by
  have serves : start.Serves (⟨identity, .change mutation⟩ : Call).identity := settled.serves ready identity
  have answered : outcome = .ok (mutation.answer service.formula (mutation.apply service.formula (start.stored identity))) :=
    perform_of_change serves rfl returns
  rw [answered, Mutation.answer_of_aim aims, Mutation.apply_of_aim aims fits, service.formula.levelForXp_floor costs]

variable
  (spared : ∀ told listener notice, (service.react told listener notice).CallsOnly (Call.LeavesAlone identity))

include spared

/-- If listeners leave the XP of the identity alone, the floor is what is stored and the level is what is answered
afterwards, and who is registered was told of the move. -/
theorem perform_of_move {limit : Nat} (returns : (service.perform {} limit start ⟨identity, .change mutation⟩).2 ≠ none) :
    let landing := service.formula.landing aim
    let after := (service.perform {} limit start ⟨identity, .change mutation⟩).1
    after.store.rows.get? identity = some (service.formula.xpForLevel landing) ∧
    (service.perform {} 3 after ⟨identity, .ask .level⟩).2 = some (.ok (.number landing)) ∧
    ∀ observer, (∀ told listener notice, (service.react told listener notice).Spares observer) →
      noticesAbout identity (heard observer after.deliveries)
        = noticesAbout identity (heard observer start.deliveries)
          ++ copies (start.channels.registrations observer)
            (Notice.ofMove identity (service.formula.levelForXp (start.stored identity)) landing) := by
  intro landing after
  let new := mutation.apply service.formula (start.stored identity)
  have arrives : new = service.formula.xpForLevel landing := Mutation.apply_of_aim aims fits
  have level : service.formula.levelForXp new = landing := by rw [arrives, service.formula.levelForXp_floor costs]
  have serves : start.Serves (⟨identity, .change mutation⟩ : Call).identity := settled.serves ready identity
  obtain ⟨account, hears⟩ : after.account identity = ⟨some new, some new, identity ∈ start.locked⟩ ∧ _ :=
    perform_of_change_alone serves rfl spared returns
  have row : after.store.rows.get? identity = some new := congrArg Account.row account
  have stored : after.stored identity = new := by rw [State.stored, row]; rfl
  have settled_after : after.Settled := settled.perform returns
  refine ⟨arrives ▸ row, ?_, fun observer spares => ?_⟩
  · have free : identity ∉ after.locked := settled_after.free ▸ List.not_mem_nil
    have answered : (service.perform {} 3 after ⟨identity, .ask .level⟩).2
        = some (.ok (.number (service.formula.levelForXp (after.stored identity)))) :=
      perform_ask free (settled_after.agrees identity) (ready_perform ready _ _ _)
    rw [answered, stored, level]
  · obtain ⟨-, told⟩ := hears observer spares
    rw [← level, ← Mutation.notices_of_aim aims]
    exact told

end Move

/-- Levels that were added are removed again, if the top was not in the way. -/
theorem perform_back (costs : service.formula.isFree = false) (settled : start.Settled) (ready : start.store.Ready)
    (spared : ∀ told listener notice, (service.react told listener notice).CallsOnly (Call.LeavesAlone identity))
    {levels : Int} (added : 0 ≤ levels)
    (below : service.formula.levelForXp (start.stored identity) + levels ≤ service.formula.maxLevel)
    (fits : service.formula.xpForLevel (service.formula.levelForXp (start.stored identity) + levels) ≤ maxXp)
    {limit again : Nat} (returns : (service.perform {} limit start ⟨identity, .change (.addLevel levels)⟩).2 ≠ none)
    (over_again : (service.perform {} again (service.perform {} limit start ⟨identity, .change (.addLevel levels)⟩).1
      ⟨identity, .change (.removeLevel levels)⟩).2 ≠ none) :
    let level := service.formula.levelForXp (start.stored identity)
    let removed := service.perform {} again (service.perform {} limit start ⟨identity, .change (.addLevel levels)⟩).1
      ⟨identity, .change (.removeLevel levels)⟩
    removed.2 = some (.ok (.number level)) ∧
      (service.perform {} 3 removed.1 ⟨identity, .ask .level⟩).2 = some (.ok (.number level)) := by
  intro level removed
  let after := (service.perform {} limit start ⟨identity, .change (.addLevel levels)⟩).1
  have first : (1 : Int) ≤ level := by exact_mod_cast service.formula.levelForXp_pos
  have last : (level : Int) ≤ service.formula.maxLevel := by exact_mod_cast service.formula.levelForXp_le_maxLevel
  have lands : (service.formula.landing (level + levels) : Int) = level + levels :=
    service.formula.landing_of_mem (by omega) below
  have lands_back : service.formula.landing level = level := by
    exact_mod_cast service.formula.landing_of_mem first last
  have aims : (Mutation.addLevel levels).aim? level = some (level + levels) := rfl
  obtain ⟨row, -, -⟩ := perform_of_move costs settled ready aims (lands.symm ▸ fits) spared returns
  have stored : after.stored identity = service.formula.xpForLevel (service.formula.landing (level + levels)) := by
    rw [State.stored, row]
    rfl
  have risen : (service.formula.levelForXp (after.stored identity) : Int) = level + levels := by
    rw [stored, service.formula.levelForXp_floor costs, lands]
  -- From where the first move landed, the second one aims at the level before it.
  have aims_back : (Mutation.removeLevel levels).aim? (service.formula.levelForXp (after.stored identity))
      = some (level : Int) := by
    rw [risen, Mutation.aim?, add_sub_cancel_right]
  have fits_back : service.formula.xpForLevel (service.formula.landing level) ≤ maxXp := by
    rw [lands_back]
    exact (service.formula.xpForLevel_monotone (by omega)).trans fits
  have settled_after : after.Settled := settled.perform returns
  have ready_after : after.store.Ready := ready_perform ready _ _ _
  obtain ⟨outcome, ended⟩ := Option.ne_none_iff_exists'.1 over_again
  have answered := outcome_of_move costs settled_after ready_after aims_back fits_back ended
  obtain ⟨-, asked, -⟩ := perform_of_move costs settled_after ready_after aims_back fits_back spared over_again
  rw [lands_back] at answered asked
  exact ⟨ended.trans (congrArg some answered), asked⟩

/-- A move by levels starts from a service between calls, from whatever XP there is and by however many levels, and
levels cost something. It lands on the level nearest to its aim, of those from one to the top, if the range has the floor
of that level: within five steps, and before any listener is told, that floor is known and stored and the lock is free
again. What is told is that the level rose or fell to it, if it is another level, and nothing else. Whatever listeners
do, the answer is the level. If they leave the XP of the identity alone, the floor is what is stored after the call, the
service answers by the level, and who is registered was told of the move as often as it is registered; levels that were
added are removed again if there are that many up to the top. If listeners neither wait nor call, five steps are enough. -/
theorem level_moves_land (service : Service L) (costs : service.formula.isFree = false) {start : State L}
    (settled : start.Settled) (ready : start.store.Ready) {identity : Identity} {mutation : Mutation} {aim : Int}
    (aims : mutation.aim? (service.formula.levelForXp (start.stored identity)) = some aim)
    (fits : service.formula.xpForLevel (max 1 (min aim service.formula.maxLevel)) ≤ maxXp) :
    let call : Call := ⟨identity, .change mutation⟩
    let level := service.formula.levelForXp (start.stored identity)
    let landing := service.formula.landing aim
    let floor := service.formula.xpForLevel landing
    let moved := enter start identity floor
    let notices := Notice.ofMove identity level landing
    (landing : Int) = max 1 (min aim service.formula.maxLevel) ∧
    (∃ count ≤ 5, service.steps {} count start { call }
        = afterTelling { call } (.number landing) (service.tell moved notices)) ∧
    moved.account identity = ⟨some floor, some floor, identity ∈ start.locked⟩ ∧
    (∀ other, other ≠ identity → moved.account other = start.account other) ∧
    (∀ limit outcome, (service.perform {} limit start call).2 = some outcome → outcome = .ok (.number landing)) ∧
    ((∀ told listener notice, (service.react told listener notice).CallsOnly (Call.LeavesAlone identity)) →
      ∀ limit, (service.perform {} limit start call).2 ≠ none →
        let after := (service.perform {} limit start call).1
        after.store.rows.get? identity = some floor ∧
        (service.perform {} 3 after ⟨identity, .ask .level⟩).2 = some (.ok (.number landing)) ∧
        (∀ observer, (∀ told listener notice, (service.react told listener notice).Spares observer) →
          noticesAbout identity (heard observer after.deliveries)
            = noticesAbout identity (heard observer start.deliveries)
              ++ copies (start.channels.registrations observer) notices) ∧
        ∀ levels again, mutation = .addLevel levels → 0 ≤ levels → level + levels ≤ service.formula.maxLevel →
          let removed := service.perform {} again after ⟨identity, .change (.removeLevel levels)⟩
          removed.2 ≠ none → removed.2 = some (.ok (.number level)) ∧
            (service.perform {} 3 removed.1 ⟨identity, .ask .level⟩).2 = some (.ok (.number level))) ∧
    ((∀ told listener notice, (service.react told listener notice).Prompt) →
      ∀ limit, 5 ≤ limit → (service.perform {} limit start call).2 ≠ none) := by
  intro call level landing floor moved notices
  rw [← service.formula.natCast_landing] at fits
  refine ⟨service.formula.natCast_landing, steps_of_move costs settled ready aims fits, account_enter_self,
    fun other => account_enter, fun limit outcome returns => outcome_of_move costs settled ready aims fits returns,
    fun spared limit returns => ?_, fun prompt limit enough => ?_⟩
  · obtain ⟨row, answered, hears⟩ := perform_of_move costs settled ready aims fits spared returns
    refine ⟨row, answered, hears, ?_⟩
    rintro levels again rfl added below removed over_again
    cases aims
    have first : 1 ≤ level := service.formula.levelForXp_pos
    have lands : (service.formula.landing (level + levels) : Int) = level + levels :=
      service.formula.landing_of_mem (by omega) below
    exact perform_back costs settled ready spared added below (lands ▸ fits) returns over_again
  · exact perform_over prompt (settled.free ▸ List.not_mem_nil) {} enough

/-- An identity with 500 XP is at level 6; two levels are added and removed again. -/
theorem level_moves_land_and_back :
    let after := (quiet.perform {} 5 watchedStart ⟨"a", .change (.addLevel 2)⟩).1
    after.store.rows.get? "a" = some 700 ∧
      (quiet.perform {} 3 after ⟨"a", .ask .level⟩).2 = some (.ok (.number 8)) ∧
      noticesAbout "a" (heard () after.deliveries) = [.rose ⟨"a", 6, 8⟩] ∧
      (quiet.perform {} 5 after ⟨"a", .change (.removeLevel 2)⟩).2 = some (.ok (.number 6)) := by
  intro after
  have settled : watchedStart.Settled := ⟨rfl, fun _ _ known => nomatch known⟩
  have level : quiet.formula.levelForXp (watchedStart.stored "a") = 6 := by decide +kernel
  have aims : (Mutation.addLevel 2).aim? (quiet.formula.levelForXp (watchedStart.stored "a")) = some 8 := by
    rw [level]
    rfl
  have returns : (quiet.perform {} 5 watchedStart ⟨"a", .change (.addLevel 2)⟩).2 ≠ none := by decide +kernel
  have over_again : (quiet.perform {} 5 after ⟨"a", .change (.removeLevel 2)⟩).2 ≠ none := by decide +kernel
  obtain ⟨-, -, -, -, -, moves, -⟩ := level_moves_land quiet rfl settled ⟨rfl, rfl⟩ aims (by decide +kernel)
  obtain ⟨row, answered, hears, back⟩ := moves (fun _ _ _ => trivial) 5 returns
  have landing : quiet.formula.landing 8 = 8 := by decide +kernel
  have floor : quiet.formula.xpForLevel 8 = 700 := by decide +kernel
  rw [landing] at row answered hears
  rw [level] at hears back
  refine ⟨floor ▸ row, answered, ?_, ?_⟩
  · rw [hears () fun _ _ _ => trivial]
    decide +kernel
  · obtain ⟨removed, -⟩ := back 2 5 rfl (by decide) (by decide +kernel) over_again
    exact removed

end Service

end Progression
