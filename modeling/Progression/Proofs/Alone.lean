import Progression.Proofs.Announcements
import Progression.Proofs.Store

namespace Progression

variable {L : Type}

namespace Task

theorem outcome?_eq_some {task : Task L} {outcome : Outcome} :
    task.outcome? = some outcome ↔ task.phase = .finished outcome ∧ task.waiting = [] := by
  rw [outcome?]
  split
  · rename_i phase alone
    simp [phase, alone]
  · rename_i unfinished
    simp only [reduceCtorEq, false_iff, not_and]
    exact unfinished outcome

end Task

/-- How many steps a call takes at most from a phase on, if no lock is in its way and no listener stops it. -/
def Phase.toGo : Phase L → Nat
  | .fresh | .queued => 5
  | .loading => 4
  | .loaded _ => 3
  | .saving _ _ => 2
  | .saved _ _ => 1
  | .telling _ _ _ | .finished _ => 0

namespace Service

variable [DecidableEq L] {service : Service L} {state : State L} {task : Task L}

theorem perform_ask {identity : Identity} {query : Query} (free : identity ∉ state.locked)
    (agrees : ∀ xp, state.cache.get? identity = some xp → xp = state.stored identity) (ready : state.store.Ready) :
    (service.perform {} 3 state ⟨identity, .ask query⟩).2
      = some (.ok (query.answer service.formula service.ranks (state.stored identity))) := by
  have unlocked : isLocked state identity = false := by simpa [isLocked] using free
  cases known : state.cache.get? identity with
  | some xp =>
    rw [← agrees xp known]
    simp [perform, steps, step, begin, Task.outcome?, known]
  | none =>
    have loads : state.store.load identity = .ok (state.store.rows.get? identity) := by
      rw [Store.load, bind_eq_ok]
      exact ⟨(), Store.reach_eq_ok.2 ready, rfl⟩
    simp [perform, steps, step, begin, acquire, lock, load, proceed, Task.outcome?, known, unlocked, loads,
      State.stored]

theorem World.store_run (world : World L) (schedule : List (Nat × Outage)) :
    ∃ rows, (world.run service schedule).state.store = { world.state.store with rows } := by
  induction schedule generalizing world with
  | nil => exact ⟨_, rfl⟩
  | cons turn rest ih =>
    obtain ⟨rows, ends⟩ := ih (world.step service turn.1 turn.2)
    refine ⟨rows, ends.trans ?_⟩
    cases present : world.tasks[turn.1]? with
    | none => rw [World.step_of_absent present]
    | some task =>
      obtain ⟨after, next, moved, becomes⟩ := World.step_of_present service turn.2 present
      rw [becomes]
      obtain ⟨-, same⟩ | ⟨old, new, -, -, rfl⟩ := moved.saves
      · rw [same]
      · rfl

theorem step_of_outcome {outcome : Outcome} (completed : task.outcome? = some outcome) (outage : Outage) :
    step service outage state task = (state, task) := by
  obtain ⟨phase, alone⟩ := Task.outcome?_eq_some.1 completed
  simp only [step, phase, alone]

theorem steps_of_outcome {outcome : Outcome} (completed : task.outcome? = some outcome) (outage : Outage) (count : Nat) :
    steps service outage count state task = (state, task) := by
  cases count with
  | zero => rfl
  | succ count => simp only [steps, completed]

/-- Steps of a task with no other in between are turns of a world in which there is no other. -/
theorem steps_eq_run (outage : Outage) (count : Nat) (state : State L) (task : Task L) :
    World.run service ⟨state, [task]⟩ (List.replicate count (0, outage))
      = ⟨(steps service outage count state task).1, [(steps service outage count state task).2]⟩ := by
  induction count generalizing state task with
  | zero => rfl
  | succ count ih =>
    rw [List.replicate_succ]
    have turn : World.run service ⟨state, [task]⟩ ((0, outage) :: List.replicate count (0, outage))
        = World.run service ⟨(step service outage state task).1, [(step service outage state task).2]⟩
          (List.replicate count (0, outage)) := rfl
    rw [turn, ih]
    cases completed : task.outcome? with
    | some outcome =>
      rw [step_of_outcome completed, steps_of_outcome completed, steps_of_outcome completed]
    | none =>
      rw [steps.eq_def service outage (count + 1)]
      simp only [completed]

theorem perform_eq_run (outage : Outage) (limit : Nat) (state : State L) (call : Call) :
    ∃ task, (World.begin state [call]).run service (List.replicate limit (0, outage))
        = ⟨(service.perform outage limit state call).1, [task]⟩ ∧
      task.outcome? = (service.perform outage limit state call).2 :=
  ⟨_, steps_eq_run outage limit state { call }, rfl⟩

section Completion

omit [DecidableEq L] in
theorem outcome?_of_toGo (undisturbed : task.Undisturbed) (done : task.phase.toGo = 0) : task.outcome? ≠ none := by
  obtain ⟨alone, quiet⟩ := undisturbed
  cases phase : task.phase with
  | telling answer reaction rest => exact absurd phase (quiet answer reaction rest)
  | finished outcome =>
    rw [Task.outcome?_eq_some.2 ⟨phase, alone⟩]
    exact Option.some_ne_none outcome
  | fresh | queued | loading | loaded | saving | saved => simp [phase, Phase.toGo] at done

omit [DecidableEq L] in
/-- Each step brings a call nearer to its end, unless it waits for a lock. -/
theorem Moved.toGo_lt {after : State L} {next : Task L} (moved : Moved service state task after next)
    (calm : next.Undisturbed) (going : task.phase.toGo ≠ 0)
    (free : task.phase.Waits → task.identity ∉ state.locked) :
    ¬ next.phase.Waits ∧ next.phase.toGo < task.phase.toGo := by
  have waiting (waits : task.phase.Waits) : task.phase.toGo = 5 := by
    cases phase : task.phase <;> simp_all [Phase.Waits, Phase.toGo]
  have ended {answer : Answer} (continued : Continued answer task next) :
      ¬ next.phase.Waits ∧ next.phase.toGo = 0 := by
    cases continued with
    | finished => exact ⟨id, rfl⟩
    | telling => exact absurd rfl (calm.2 _ _ _)
    | calling => exact absurd calm.1 (List.cons_ne_nil _ _)
  cases moved with
  | blocked waits taken => exact absurd taken (free waits)
  | answered waits | entered waits | resumed waits =>
    refine ⟨id, ?_⟩
    rw [waiting waits]
    simp [Phase.toGo]
  | loaded earlier | queried earlier | prepared earlier | saved earlier =>
    refine ⟨id, ?_⟩
    rw [earlier]
    simp [Phase.toGo]
  | abandoned => exact ⟨id, Nat.pos_of_ne_zero going⟩
  | announced _ _ continued =>
    obtain ⟨passed, done⟩ := ended continued
    exact ⟨passed, done ▸ Nat.pos_of_ne_zero going⟩
  | told earlier | returned earlier | idle earlier => simp [earlier, Phase.toGo] at going

theorem steps_over (prompt : ∀ told listener notice, (service.react told listener notice).Prompt)
    (undisturbed : task.Undisturbed) (free : task.phase.Waits → task.identity ∉ state.locked) (outage : Outage)
    {count : Nat} (enough : task.phase.toGo ≤ count) : (steps service outage count state task).2.outcome? ≠ none := by
  induction count generalizing state task with
  | zero => exact outcome?_of_toGo undisturbed (Nat.le_zero.1 enough)
  | succ count ih =>
    cases completed : task.outcome? with
    | some outcome => simp [steps_of_outcome completed, completed]
    | none =>
      rw [steps.eq_def]
      simp only [completed]
      have going : task.phase.toGo ≠ 0 := fun done => outcome?_of_toGo undisturbed done completed
      have calm : (step service outage state task).2.Undisturbed := (step_of_prompt prompt undisturbed 0 outage).1
      obtain ⟨passed, nearer⟩ := (moved_step service outage).toGo_lt calm going free
      exact ih calm (fun waits => absurd waits passed) (by omega)

/-- If listeners neither wait nor call and the lock is free, five steps are enough for a call. -/
theorem perform_over (prompt : ∀ told listener notice, (service.react told listener notice).Prompt) {call : Call}
    (free : call.identity ∉ state.locked) (outage : Outage) {limit : Nat} (enough : 5 ≤ limit) :
    (service.perform outage limit state call).2 ≠ none :=
  steps_over prompt (Task.undisturbed_fresh call) (fun _ => free) outage enough

end Completion

end Service

end Progression
