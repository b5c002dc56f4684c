import Progression.Proofs.Attempts
import Progression.Proofs.Isolation

/-!
What happens to a change once it is saved. No step of any call fails by its formula, so that the call goes on from the save
to its answer; in its next turn it tells of the change, and whoever is registered is told of all of it before the call ends.
-/

namespace Progression

variable {L : Type}

/-- The answer about an identity, as it is worked out. -/
def Query.attempt (formula : Formula) (ranks : RankBook) (xp : Int) : Query → Except LookupFault Answer
  | .xp => .ok (.number xp)
  | .level => do return .number (← formula.attemptLevel xp)
  | .rank => do return .rank (ranks.rankForLevel (← formula.attemptLevel xp))

theorem Query.attempt_eq (query : Query) (formula : Formula) (ranks : RankBook) (xp : Int) :
    query.attempt formula ranks xp = .ok (query.answer formula ranks xp) := by
  cases query with
  | xp => rfl
  | level | rank =>
    rw [attempt, formula.attemptLevel_eq]
    rfl

namespace Mutation

/-- The floor of the level nearest to a given one, as it is worked out. -/
def attemptFloorNear (formula : Formula) (level : Int) : Except LookupFault Int :=
  formula.attemptFloor (min (max level 0) formula.maxLevel)

/-- The XP that a change aims at, as it is worked out. -/
def attemptTarget (formula : Formula) (xp : Int) : Mutation → Except LookupFault Int
  | addXp amount => .ok (xp + amount)
  | removeXp amount => .ok (xp - amount)
  | setXp wanted => .ok wanted
  | addLevel levels => do attemptFloorNear formula ((← formula.attemptLevel xp) + levels)
  | removeLevel levels => do attemptFloorNear formula ((← formula.attemptLevel xp) - levels)
  | setLevel level => attemptFloorNear formula level

/-- The notices of a change; the levels before and after it are worked out whatever it is. -/
def attemptNotices (formula : Formula) (identity : Identity) (old new : Int) (mutation : Mutation) :
    Except LookupFault (List Notice) := do
  let before ← formula.attemptLevel old
  let after ← formula.attemptLevel new
  return match mutation with
    | addXp amount => .gained ⟨identity, amount, old, new⟩ :: Notice.ofRise identity before after
    | removeXp amount => .lost ⟨identity, amount, old, new⟩ :: Notice.ofFall identity before after
    | _ => Notice.ofRise identity before after ++ Notice.ofFall identity before after

/-- The answer to a change, as it is worked out. -/
def attemptAnswer (formula : Formula) (new : Int) : Mutation → Except LookupFault Answer
  | addXp _ | removeXp _ | setXp _ => .ok (.number new)
  | addLevel _ | removeLevel _ | setLevel _ => do return .number (← formula.attemptLevel new)

variable (formula : Formula) (mutation : Mutation)

theorem attemptTarget_eq (xp : Int) : mutation.attemptTarget formula xp = .ok (mutation.target formula xp) := by
  cases mutation with
  | addXp | removeXp | setXp => rfl
  | setLevel level => exact formula.attemptFloor_eq _
  | addLevel | removeLevel =>
    rw [attemptTarget, formula.attemptLevel_eq]
    exact formula.attemptFloor_eq _

theorem attemptNotices_eq (identity : Identity) (old new : Int) :
    mutation.attemptNotices formula identity old new = .ok (mutation.notices formula identity old new) := by
  rw [attemptNotices, formula.attemptLevel_eq, formula.attemptLevel_eq]
  cases mutation <;> rfl

theorem attemptAnswer_eq (new : Int) : mutation.attemptAnswer formula new = .ok (mutation.answer formula new) := by
  cases mutation with
  | addXp | removeXp | setXp => rfl
  | addLevel | removeLevel | setLevel =>
    rw [attemptAnswer, formula.attemptLevel_eq]
    rfl

end Mutation

namespace Service

section Attempted

variable (service : Service L) (state : State L) (task : Task L)

/-- Go on with the XP known and the lock held, as far as the formula does not fail. -/
def attemptProceed (xp : Int) : Except LookupFault (State L × Task L) :=
  match task.call.request with
  | .ask query => do
    let answer ← query.attempt service.formula service.ranks xp
    return (unlock state task.call.identity, { task with phase := .finished (.ok answer) })
  | .change mutation => do
    let target ← mutation.attemptTarget service.formula xp
    return (state, { task with phase := .saving xp (clampXp target) })

theorem attemptProceed_eq (xp : Int) : attemptProceed service state task xp = .ok (proceed service state task xp) := by
  rw [attemptProceed, proceed]
  cases task.call.request with
  | ask query =>
    simp only [query.attempt_eq]
    rfl
  | change mutation =>
    simp only [mutation.attemptTarget_eq]
    rfl

/-- Take the lock if it is free, as far as the formula does not fail. -/
def attemptAcquire : Except LookupFault (State L × Task L) :=
  if isLocked state task.call.identity then .ok (state, { task with phase := .queued })
  else
    let state := lock state task.call.identity
    match state.cache.get? task.call.identity with
    | some xp => attemptProceed service state task xp
    | none => .ok (state, { task with phase := .loading })

theorem attemptAcquire_eq : attemptAcquire service state task = .ok (acquire service state task) := by
  rw [attemptAcquire, acquire]
  by_cases taken : isLocked state task.call.identity = true
  · rw [if_pos taken, if_pos taken]
  · rw [if_neg taken, if_neg taken]
    dsimp only
    cases (lock state task.call.identity).cache.get? task.call.identity with
    | some xp => exact attemptProceed_eq service _ task xp
    | none => rfl

/-- Begin a call, as far as the formula does not fail. -/
def attemptBegin : Except LookupFault (State L × Task L) :=
  match task.call.request, state.cache.get? task.call.identity with
  | .ask query, some xp => do
    let answer ← query.attempt service.formula service.ranks xp
    return (state, { task with phase := .finished (.ok answer) })
  | _, _ => attemptAcquire service state task

theorem attemptBegin_eq : attemptBegin service state task = .ok (begin service state task) := by
  rw [attemptBegin, begin]
  cases task.call.request with
  | change mutation => exact attemptAcquire_eq service state task
  | ask query =>
    cases state.cache.get? task.call.identity with
    | none => exact attemptAcquire_eq service state task
    | some xp =>
      simp only [query.attempt_eq]
      rfl

variable [DecidableEq L]

/-- Make saved XP known, give up the lock, and tell of the change if the formula does not fail. -/
def attemptAnnounce (old new : Int) : Except LookupFault (State L × Task L) :=
  let identity := task.call.identity
  let state := unlock (remember state identity new) identity
  match task.call.request with
  | .ask query => do
    let answer ← query.attempt service.formula service.ranks new
    return (state, { task with phase := .finished (.ok answer) })
  | .change mutation => do
    let notices ← mutation.attemptNotices service.formula identity old new
    let answer ← mutation.attemptAnswer service.formula new
    return afterTelling task answer (tell service state notices)

theorem attemptAnnounce_eq (old new : Int) :
    attemptAnnounce service state task old new = .ok (announce service state task old new) := by
  rw [attemptAnnounce, announce]
  cases task.call.request with
  | ask query =>
    simp only [query.attempt_eq]
    rfl
  | change mutation =>
    simp only [mutation.attemptNotices_eq, mutation.attemptAnswer_eq]
    rfl

/-- One step of a task, as far as the formula does not fail. -/
def attemptStep (outage : Outage) : Except LookupFault (State L × Task L) :=
  match task.phase with
  | .fresh => attemptBegin service state task
  | .queued => attemptAcquire service state task
  | .loaded xp => attemptProceed service (remember state task.call.identity xp) task xp
  | .saved old new => attemptAnnounce service state task old new
  | _ => .ok (step service outage state task)

/-- No step of any call fails by its formula. -/
theorem attemptStep_eq (outage : Outage) :
    attemptStep service state task outage = .ok (step service outage state task) := by
  rw [attemptStep.eq_def, step.eq_def]
  cases task.phase with
  | fresh => exact attemptBegin_eq service state task
  | queued => exact attemptAcquire_eq service state task
  | loaded xp => exact attemptProceed_eq service _ task xp
  | saved old new => exact attemptAnnounce_eq service state task old new
  | loading | saving | telling | finished => rfl

/-- Let the task with an index take a step, as far as the formula does not fail. -/
def World.attemptStep (world : World L) (index : Nat) (outage : Outage) : Except LookupFault (World L) :=
  match world.tasks[index]? with
  | none => .ok world
  | some task => do
    let moved ← Service.attemptStep service world.state task outage
    return ⟨moved.1, world.tasks.set index moved.2⟩

theorem World.attemptStep_eq (world : World L) (index : Nat) (outage : Outage) :
    world.attemptStep service index outage = .ok (world.step service index outage) := by
  rw [World.attemptStep, World.step]
  cases world.tasks[index]? with
  | none => rfl
  | some task =>
    simp only [Service.attemptStep_eq]
    rfl

/-- Let tasks take steps as a schedule says, as far as the formula does not fail. -/
def World.attemptRun (world : World L) : List (Nat × Outage) → Except LookupFault (World L)
  | [] => .ok world
  | (index, outage) :: rest => do
    let later ← world.attemptStep service index outage
    later.attemptRun rest

theorem World.attemptRun_eq (world : World L) (schedule : List (Nat × Outage)) :
    world.attemptRun service schedule = .ok (world.run service schedule) := by
  induction schedule generalizing world with
  | nil => rfl
  | cons turn rest ih =>
    rw [World.attemptRun, World.attemptStep_eq]
    exact ih _

end Attempted

section Delivered

variable [DecidableEq L] {service : Service L} {state after : State L} {task next : Task L} {observer : L}
  {often : Topic → Nat} {inner outer : List (Waiting L)}

/-- All that was told by one state was told by another. -/
structure ToldMore (before after : State L) : Prop where
  deliveries : before.deliveries <+: after.deliveries

omit [DecidableEq L] in
theorem ToldMore.refl (state : State L) : ToldMore state state := ⟨List.prefix_rfl⟩

omit [DecidableEq L] in
theorem ToldMore.trans {first second third : State L} (left : ToldMore first second) (right : ToldMore second third) :
    ToldMore first third := ⟨left.deliveries.trans right.deliveries⟩

theorem react_toldMore (notice : Notice) (state : State L) (listener : L) :
    ToldMore state (runReaction { state with deliveries := state.deliveries ++ [⟨listener, notice⟩] }
      (service.react state.deliveries listener notice)).1 := by
  refine ⟨?_⟩
  rw [deliveries_runReaction]
  exact List.prefix_append ..

theorem goOn_toldMore (reaction : Reaction L) (telling : Telling L) (state : State L) :
    ToldMore state (goOn service state reaction telling).1 := by
  have own : ToldMore state (runReaction state reaction).1 := ⟨by simp [deliveries_runReaction]⟩
  exact goOn_keeps ToldMore.refl ToldMore.trans state own fun notice _ => react_toldMore notice

theorem step_toldMore (outage : Outage) : ToldMore state (step service outage state task).1 := by
  have moved : Moved service state task _ _ := moved_step service outage
  rcases task.phase.open_or_saved_or_done with opened | ⟨old, new, saved⟩ | done
  · exact ⟨by simp [(moved.unheard opened).2.1]⟩
  · have announced : ToldMore state (unlock (remember state task.call.identity new) task.call.identity) :=
      ⟨List.prefix_rfl⟩
    simp only [step, saved, announce]
    split
    · exact announced
    · rw [(afterTelling_continued _ _ _).1]
      exact announced.trans (tell_keeps ToldMore.refl ToldMore.trans (fun notice _ => react_toldMore notice) _)
  · cases phase : task.phase with
    | telling answer reaction rest =>
      simp only [step, phase]
      rw [(afterTelling_continued _ _ _).1]
      exact goOn_toldMore reaction rest state
    | finished outcome =>
      simp only [step, phase]
      split
      · exact .refl state
      · rw [(afterTelling_continued _ _ _).1]
        exact goOn_toldMore _ _ state
    | fresh | queued | loading | loaded | saving | saved => simp [phase, Phase.Done] at done

theorem World.step_toldMore {world : World L} (index : Nat) (outage : Outage) :
    ToldMore world.state (world.step service index outage).state := by
  cases present : world.tasks[index]? with
  | none =>
    rw [World.step_of_absent present]
    exact .refl _
  | some task =>
    rw [World.step_eq present]
    exact Service.step_toldMore outage

omit [DecidableEq L] in
theorem Continued.frames {answer : Answer} (continued : Continued answer task next) (waits : task.waiting = inner ++ outer) :
    ∃ frames, next.waiting = frames ++ outer := by
  cases continued with
  | finished | telling => exact ⟨inner, waits⟩
  | calling => exact ⟨_ :: inner, by rw [waits]; rfl⟩

omit [DecidableEq L] in
theorem Moved.frames (moved : Moved service state task after next) (waits : task.waiting = inner ++ outer)
    (going : task.ended? outer.length = none) : ∃ frames, next.waiting = frames ++ outer := by
  cases moved with
  | announced _ _ continued | told _ _ continued => exact continued.frames waits
  | @returned outcome first waiting _ _ ended stack _ continued =>
    rcases inner with _ | ⟨own, inner⟩
    · simp [Task.ended?, ended, waits] at going
    · rw [waits, List.cons_append] at stack
      obtain ⟨-, rest⟩ := List.cons.inj stack
      exact continued.frames rest.symm
  | blocked | answered | entered | resumed | loaded | queried | prepared | abandoned | saved | idle =>
    exact ⟨inner, waits⟩

theorem pending_eq (waits : task.waiting = inner ++ outer) :
    task.pending observer often = ({ task with waiting := inner } : Task L).pending observer often
      ++ outer.flatMap fun outer => outer.rest.pending observer often := by
  rw [Task.pending, Task.pending, waits, List.flatMap_append, List.append_assoc]

/-- What a listener is to be told of by the calls of a task for which some others wait, with what is announced next. -/
def owed (formula : Formula) (observer : L) (often : Topic → Nat) (inner : List (Waiting L)) (task : Task L) :
    List Notice :=
  copies often ((task.announcement? 0).toList.flatMap (Commit.notices formula)) ++
    ({ task with waiting := inner } : Task L).pending observer often

theorem owed_of_ended {formula : Formula} {outcome : Outcome} (waits : task.waiting = inner ++ outer)
    (ended : task.ended? outer.length = some outcome) : owed formula observer often inner task = [] := by
  rw [Task.ended?] at ended
  split at ended
  · rename_i finished
    split at ended
    · rename_i deep
      have alone : inner = [] := by
        rw [waits, List.length_append] at deep
        exact List.length_eq_zero_iff.1 (by omega)
      simp [owed, Task.pending, Task.announcement?, finished, alone]
    · cases ended
  · cases ended

/-- Beyond what it heard before, a listener was told of news, or it is owed them by the calls of a task that some are
waiting for. -/
def Conveyed (formula : Formula) (observer : L) (often : Topic → Nat) (outer : List (Waiting L))
    (news before : List Notice) (state : State L) (task : Task L) : Prop :=
  ∃ told, heard observer state.deliveries = before ++ told ∧
    (news.Sublist told ∨ ∃ inner, task.waiting = inner ++ outer ∧
      news.Sublist (told ++ owed formula observer often inner task))

section Conveyed

variable {news before : List Notice}

theorem ToldMore.heard (more : ToldMore state after) (observer : L) :
    ∃ told, heard observer after.deliveries = heard observer state.deliveries ++ told := by
  obtain ⟨told, grown⟩ := more.deliveries
  exact ⟨Progression.heard observer told, by rw [← grown, heard_append]⟩

theorem Conveyed.of_toldMore {formula : Formula} (conveyed : Conveyed formula observer often outer news before state task)
    (more : ToldMore state after) : Conveyed formula observer often outer news before after task := by
  obtain ⟨told, since, cases⟩ := conveyed
  obtain ⟨later, grown⟩ := more.heard observer
  refine ⟨told ++ later, by rw [grown, since, List.append_assoc], ?_⟩
  rcases cases with done | ⟨inner, waits, left⟩
  · exact .inl (done.trans (List.sublist_append_left ..))
  · refine .inr ⟨inner, waits, left.trans ?_⟩
    rw [List.append_assoc]
    exact (List.append_sublist_append_left _).2 (List.sublist_append_right ..)

/-- The step lemma: what is owed is told, or it is still owed. -/
theorem Conveyed.step (spares : ∀ told listener notice, (service.react told listener notice).Spares observer)
    (registered : state.channels.registrations observer = often) (own : task.Spares observer) (outage : Outage)
    (conveyed : Conveyed service.formula observer often outer news before state task) :
    Conveyed service.formula observer often outer news before (step service outage state task).1
      (step service outage state task).2 := by
  have more : ToldMore state (Service.step service outage state task).1 := step_toldMore outage
  have moved : Moved service state task _ _ := moved_step service outage
  obtain ⟨told, since, cases⟩ := conveyed
  obtain ⟨later, grown⟩ := more.heard observer
  refine ⟨told ++ later, by rw [grown, since, List.append_assoc], ?_⟩
  rcases cases with done | ⟨inner, waits, left⟩
  · exact .inl (done.trans (List.sublist_append_left ..))
  · cases going : task.ended? outer.length with
    | some outcome =>
      rw [owed_of_ended waits going, List.append_nil] at left
      exact .inl (left.trans (List.sublist_append_left ..))
    | none =>
      obtain ⟨frames, goes⟩ := moved.frames waits going
      refine .inr ⟨frames, goes, left.trans ?_⟩
      -- What the task told in the step, with what it is still to tell, is what it owed.
      have hears := (step_told spares registered own 0 outage).1.heard
      rw [grown, pending_eq waits, pending_eq goes, List.append_assoc, List.append_right_inj, ← List.append_assoc,
        ← List.append_assoc, List.append_left_inj] at hears
      rw [owed, ← hears, List.append_assoc]
      refine (List.append_sublist_append_left _).2 ((List.append_sublist_append_left _).2 ?_)
      exact List.sublist_append_right ..

theorem Conveyed.of_ended {formula : Formula} {outcome : Outcome}
    (conveyed : Conveyed formula observer often outer news before state task)
    (ended : task.ended? outer.length = some outcome) :
    ∃ told, Progression.heard observer state.deliveries = before ++ told ∧ news.Sublist told := by
  obtain ⟨told, since, cases⟩ := conveyed
  rcases cases with done | ⟨inner, waits, left⟩
  · exact ⟨told, since, done⟩
  · rw [owed_of_ended waits ended, List.append_nil] at left
    exact ⟨told, since, left⟩

end Conveyed

/-- A listener is registered for each topic so often, and the calls in progress leave its registrations alone. -/
structure World.Attentive (observer : L) (often : Topic → Nat) (world : World L) : Prop where
  registered : world.state.channels.registrations observer = often
  spares : ∀ task ∈ world.tasks, task.Spares observer

section Runs

variable {world : World L} {news before : List Notice} (spares : ∀ told listener notice,
  (service.react told listener notice).Spares observer)

include spares

theorem World.Attentive.step (attentive : world.Attentive observer often) (index : Nat) (outage : Outage) :
    (world.step service index outage).Attentive observer often := by
  cases present : world.tasks[index]? with
  | none =>
    rw [World.step_of_absent present]
    exact attentive
  | some task =>
    obtain ⟨told, spared⟩ := step_told spares attentive.registered (attentive.spares task (List.mem_of_getElem? present))
      index outage
    rw [World.step_eq present]
    exact ⟨told.registrations.trans attentive.registered, forall_mem_set attentive.spares spared⟩

/-- The run lemma: along any schedule, a listener is told of the news that a call owes it, or they are still owed. -/
theorem World.Attentive.conveyed_run (attentive : world.Attentive observer often) {index : Nat}
    (present : world.tasks[index]? = some task)
    (conveyed : Conveyed service.formula observer often outer news before world.state task)
    (schedule : List (Nat × Outage)) :
    ∃ later, (world.run service schedule).tasks[index]? = some later ∧
      Conveyed service.formula observer often outer news before (world.run service schedule).state later := by
  induction schedule generalizing world task with
  | nil => exact ⟨task, present, conveyed⟩
  | cons turn rest ih =>
    rw [World.run_cons]
    have attentive_next := attentive.step spares turn.1 turn.2
    by_cases own : index = turn.1
    · subst own
      have stands : (world.step service turn.1 turn.2).tasks[turn.1]? =
          some (Service.step service turn.2 world.state task).2 := by
        rw [World.step_eq present]
        simp [getElem?_set_of_some present]
      refine ih attentive_next stands ?_
      rw [World.step_eq present]
      exact conveyed.step spares attentive.registered (attentive.spares task (List.mem_of_getElem? present)) turn.2
    · have stands : (world.step service turn.1 turn.2).tasks[index]? = some task := by
        rw [World.step_of_other own]
        exact present
      exact ih attentive_next stands (conveyed.of_toldMore (World.step_toldMore turn.1 turn.2))

end Runs

end Delivered

theorem World.run_of_others [DecidableEq L] {service : Service L} {world : World L} {index : Nat}
    {others : List (Nat × Outage)} (apart : ∀ turn ∈ others, turn.1 ≠ index) :
    (world.run service others).tasks[index]? = world.tasks[index]? := by
  induction others generalizing world with
  | nil => rfl
  | cons turn rest ih =>
    obtain ⟨different, apart⟩ := List.forall_mem_cons.1 apart
    rw [World.run_cons, ih apart, World.step_of_other different.symm]

end Service

end Progression
