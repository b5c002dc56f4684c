import Progression.Proofs.Execution

/-!
The service without listeners. A call takes the same steps in it up to the telling, and the books are the same at each of
them; telling listeners then leaves the books as they are. If listeners make no calls, a call that comes to its end leads
to the same and leaves the same books as in the service without listeners; and it comes to its end, however they wait.
-/

namespace Progression

variable {L : Type}

namespace Service

/-- The service without listeners. -/
def unheard (service : Service L) : Service Empty := ⟨service.formula, service.ranks, fun _ listener _ => listener.elim⟩

/-- A state apart from listeners. -/
def State.unheard (state : State L) : State Empty :=
  { store := state.store, cache := state.cache, locked := state.locked }

end Service

/-- How far a call has come apart from listeners: once its answer is settled, it is over. -/
def Phase.unheard : Phase L → Phase Empty
  | .fresh => .fresh
  | .queued => .queued
  | .loading => .loading
  | .loaded xp => .loaded xp
  | .saving old new => .saving old new
  | .saved old new => .saved old new
  | .telling answer _ _ => .finished (.ok answer)
  | .finished outcome => .finished outcome

/-- The call that nothing waits for, apart from listeners. -/
def Task.unheard (task : Task L) : Task Empty := ⟨task.call, task.phase.unheard, []⟩

@[simp] theorem Task.unheard_call (task : Task L) : task.unheard.call = task.call := rfl

@[simp] theorem Task.unheard_phase (task : Task L) : task.unheard.phase = task.phase.unheard := rfl

theorem Task.unheard_settled (task : Task L) : task.settled.unheard = task.unheard := by
  obtain ⟨call, phase, waiting⟩ := task
  cases phase <;> rfl

namespace Service

theorem SameBooks.unheard {before after : State L} (books : SameBooks before after) : after.unheard = before.unheard := by
  rw [State.unheard, books.store, books.cache, books.locked]
  rfl

theorem State.settled_unheard {state : State L} : state.unheard.Settled ↔ state.Settled :=
  ⟨fun settled => ⟨settled.free, settled.agrees⟩, fun settled => ⟨settled.free, settled.agrees⟩⟩

section Silence

variable {service : Service Empty}

theorem tell_of_unheard (state : State Empty) (notices : List Notice) : tell service state notices = (state, none) := by
  induction notices with
  | nil => rfl
  | cons notice rest ih =>
    rw [tell]
    cases (state.channels.get notice.topic).listeners with
    | nil => exact ih
    | cons listener others => exact listener.elim

theorem prompt_of_unheard (told : List (Delivery Empty)) (listener : Empty) (notice : Notice) :
    (service.react told listener notice).Prompt := listener.elim

end Silence

section Steps

variable {service : Service L} {state : State L} {task : Task L}

theorem proceed_unheard (xp : Int) : proceed service.unheard state.unheard task.unheard xp
    = ((proceed service state task xp).1.unheard, (proceed service state task xp).2.unheard) := by
  have same : task.unheard.call = task.call := rfl
  rw [proceed, proceed, same]
  split <;> rfl

theorem acquire_unheard : acquire service.unheard state.unheard task.unheard
    = ((acquire service state task).1.unheard, (acquire service state task).2.unheard) := by
  have same : task.unheard.call = task.call := rfl
  have locked : isLocked state.unheard task.call.identity = isLocked state task.call.identity := rfl
  have known : (lock state.unheard task.call.identity).cache = (lock state task.call.identity).cache := rfl
  rw [acquire, acquire, same, locked]
  split
  · rfl
  · dsimp only
    rw [known]
    split
    · rename_i xp _
      have proceeds : proceed service.unheard (lock state task.call.identity).unheard task.unheard xp = _ :=
        proceed_unheard xp
      exact proceeds
    · rfl

theorem begin_unheard : begin service.unheard state.unheard task.unheard
    = ((begin service state task).1.unheard, (begin service state task).2.unheard) := by
  have same : task.unheard.call = task.call := rfl
  have known : state.unheard.cache = state.cache := rfl
  rw [begin, begin, same, known]
  split
  · rfl
  · exact acquire_unheard

theorem load_unheard (outage : Outage) : load outage state.unheard task.unheard
    = ((load outage state task).1.unheard, (load outage state task).2.unheard) := by
  have loads : state.unheard.store.load task.unheard.call.identity = state.store.load task.call.identity := rfl
  rw [load, load, loads]
  split
  · rfl
  · split <;> rfl

theorem save_unheard (outage : Outage) (old new : Int) : save outage state.unheard task.unheard old new
    = ((save outage state task old new).1.unheard, (save outage state task old new).2.unheard) := by
  have saves : state.unheard.store.save task.unheard.call.identity new = state.store.save task.call.identity new := rfl
  rw [save, save, saves]
  split
  · rfl
  · split <;> rfl

variable [DecidableEq L]

/-- A call that has still nothing to tell takes the same step without listeners. -/
theorem step_unheard_of_open (opened : task.phase.Open) (outage : Outage) :
    step service.unheard outage state.unheard task.unheard
      = ((step service outage state task).1.unheard, (step service outage state task).2.unheard) := by
  cases phase : task.phase with
  | fresh =>
    simp only [step, Task.unheard_phase, phase, Phase.unheard]
    exact begin_unheard
  | queued =>
    simp only [step, Task.unheard_phase, phase, Phase.unheard]
    exact acquire_unheard
  | loading =>
    simp only [step, Task.unheard_phase, phase, Phase.unheard]
    exact load_unheard outage
  | loaded xp =>
    have proceeds : proceed service.unheard (remember state task.call.identity xp).unheard task.unheard xp = _ :=
      proceed_unheard xp
    simp only [step, Task.unheard_phase, phase, Phase.unheard]
    exact proceeds
  | saving old new =>
    simp only [step, Task.unheard_phase, phase, Phase.unheard]
    exact save_unheard outage old new
  | saved | telling | finished => simp [phase, Phase.Open] at opened

/-- The answer of a call whose change is saved is settled in the next step, whatever listeners do. -/
theorem step_unheard_of_saved {old new : Int} (saved : task.phase = .saved old new) {mutation : Mutation}
    (changes : task.call.request = .change mutation) (outage : Outage) :
    step service.unheard outage state.unheard task.unheard
        = ((step service outage state task).1.unheard,
            ⟨task.call, .finished (.ok (mutation.answer service.formula new)), []⟩) ∧
      Continued (mutation.answer service.formula new) task (step service outage state task).2 := by
  let before := unlock (remember state task.call.identity new) task.call.identity
  let told := tell service before (mutation.notices service.formula task.call.identity old new)
  have books : told.1.unheard = before.unheard := (tell_books before _).unheard
  have stepped : step service outage state task = afterTelling task (mutation.answer service.formula new) told := by
    simp only [step, saved, announce, changes]
    rfl
  obtain ⟨state_eq, continued⟩ := afterTelling_continued task (mutation.answer service.formula new) told
  rw [stepped, state_eq, books]
  refine ⟨?_, continued⟩
  simp only [step, Task.unheard_phase, saved, Phase.unheard, announce, Task.unheard_call, changes, tell_of_unheard]
  rfl

end Steps

section Performance

variable {service : Service Empty} {state : State Empty} {call : Call} (serves : state.Serves call.identity)

include serves

theorem perform_change_unheard {mutation : Mutation} (changes : call.request = .change mutation) :
    let new := mutation.apply service.formula (state.stored call.identity)
    service.perform {} 5 state call = (enter state call.identity new, some (.ok (mutation.answer service.formula new))) := by
  intro new
  obtain ⟨count, few, told⟩ : ∃ count ≤ 5, steps service {} count state ⟨call, .fresh, []⟩ = _ :=
    steps_of_change serves changes []
  rw [tell_of_unheard] at told
  exact perform_of_steps few told rfl

theorem perform_ask_unheard {query : Query} (asks : call.request = .ask query) :
    let xp := state.stored call.identity
    service.perform {} 5 state call
      = (if state.cache.get? call.identity = none then remember state call.identity xp else state,
          some (.ok (query.answer service.formula service.ranks xp))) := by
  intro xp
  obtain ⟨count, few, answered⟩ : ∃ count ≤ 5, steps service {} count state ⟨call, .fresh, []⟩ = _ :=
    steps_of_ask serves asks []
  exact perform_of_steps few answered rfl

end Performance

section Mute

variable [DecidableEq L] {service : Service L} {state : State L} {task next : Task L}

omit [DecidableEq L] in
theorem Continued.unheard {answer : Answer} (continued : Continued answer task next) (alone : next.waiting = []) :
    next.unheard = ⟨task.call, .finished (.ok answer), []⟩ := by
  cases continued with
  | finished | telling => rfl
  | calling => exact absurd alone (List.cons_ne_nil _ _)

variable (mute : ∀ told listener notice, (service.react told listener notice).CallsOnly fun _ => False)

include mute

/-- If listeners make no calls, each step of a call is one without listeners, or changes nothing apart from them. -/
theorem step_unheard (own : task.CallsOnly fun _ => False) (outage : Outage) :
    ((step service outage state task).1.unheard, (step service outage state task).2.unheard)
        = step service.unheard outage state.unheard task.unheard ∨
      (step service outage state task).1.unheard = state.unheard ∧
        (step service outage state task).2.unheard = task.unheard := by
  rcases task.phase.open_or_saved_or_done with opened | ⟨old, new, saved⟩ | done
  · exact .inl (step_unheard_of_open opened outage).symm
  · refine .inl ?_
    cases request : task.call.request with
    | ask query => 
      simp only [step, Task.unheard_phase, saved, Phase.unheard, announce, Task.unheard_call, request]
      rfl
    | change mutation =>
      obtain ⟨same, continued⟩ : step service.unheard outage state.unheard task.unheard = _ ∧
          Continued (mutation.answer service.formula new) task (step service outage state task).2 :=
        step_unheard_of_saved saved request outage
      rw [same, continued.unheard (alone_of_mute (step_callsOnly service outage mute own))]
  · obtain ⟨books, settled⟩ := settled_of_done mute state own done outage
    refine .inr ⟨books.unheard, ?_⟩
    rw [← Task.unheard_settled, settled, Task.unheard_settled]

/-- The run lemma: the steps of a call are, apart from listeners, steps without them, and no more of those. -/
theorem steps_unheard (own : task.CallsOnly fun _ => False) (outage : Outage) (count : Nat) :
    ∃ fewer ≤ count, steps service.unheard outage fewer state.unheard task.unheard
      = ((steps service outage count state task).1.unheard, (steps service outage count state task).2.unheard) := by
  induction count generalizing state task with
  | zero => exact ⟨0, le_rfl, rfl⟩
  | succ count ih =>
    rw [steps_step]
    obtain ⟨fewer, below, ran⟩ := ih (step_callsOnly service outage mute own)
    rcases step_unheard mute own outage with same | ⟨state_same, task_same⟩
    · exact ⟨fewer + 1, Nat.succ_le_succ below, (steps_succ same.symm fewer).trans ran⟩
    · rw [state_same, task_same] at ran
      exact ⟨fewer, Nat.le_succ_of_le below, ran⟩

omit mute [DecidableEq L] in
theorem callsOnly_fresh (allowed : Call → Prop) (call : Call) : ({ call } : Task L).CallsOnly allowed :=
  ⟨fun _ inner => absurd inner List.not_mem_nil, fun _ waits => absurd waits List.not_mem_nil,
    fun _ _ _ tells => (nomatch tells)⟩

/-- If listeners make no calls, a call that comes to its end leads to the same and leaves the same books as without
listeners, where it is over in five steps. -/
theorem perform_unheard {outage : Outage} {limit : Nat} {call : Call} (free : call.identity ∉ state.locked)
    {outcome : Outcome} (returns : (service.perform outage limit state call).2 = some outcome) :
    service.unheard.perform outage 5 state.unheard call
      = ((service.perform outage limit state call).1.unheard, some outcome) := by
  obtain ⟨fewer, -, ran⟩ : ∃ fewer ≤ limit, steps service.unheard outage fewer state.unheard (Task.unheard { call }) = _ :=
    steps_unheard mute (callsOnly_fresh (fun _ => False) call) outage limit
  have ended : (steps service outage limit state { call }).2.outcome? = some outcome := returns
  obtain ⟨finished, -⟩ := Task.outcome?_eq_some.1 ended
  have final : (steps service outage limit state { call }).2.unheard.outcome? = some outcome := by
    rw [Task.outcome?_eq_some, Task.unheard_phase, finished]
    exact ⟨rfl, rfl⟩
  have enough : (service.unheard.perform outage 5 state.unheard call).2 ≠ none :=
    perform_over prompt_of_unheard free outage le_rfl
  have short := perform_of_over (Nat.le_add_right 5 fewer) enough
  rw [← short, perform_of_steps (Nat.le_add_left fewer 5) ran final]
  rfl

end Mute

section Ends

variable [DecidableEq L] {service : Service L} {outage : Outage} {state : State L} {task : Task L} {answer : Answer}

/-- Whether a task comes to its end if there is time enough. -/
def Ends (service : Service L) (outage : Outage) (reached : State L × Task L) : Prop :=
  ∃ count, (steps service outage count reached.1 reached.2).2.outcome? ≠ none

theorem Ends.of_step (ends : Ends service outage (step service outage state task)) : Ends service outage (state, task) := by
  obtain ⟨count, returns⟩ := ends
  refine ⟨count + 1, ?_⟩
  rwa [steps_step]

theorem goOn_next (notice : Notice) (listener : L) (more : List L) (notices : List Notice) :
    goOn service state .finish ⟨notice, listener :: more, notices⟩
      = goOn service { state with deliveries := state.deliveries ++ [⟨listener, notice⟩] }
          (service.react state.deliveries listener notice) ⟨notice, more, notices⟩ := by
  simp only [goOn, runReaction, tellListeners]
  rcases runReaction _ (service.react state.deliveries listener notice) with ⟨after, _ | stop⟩ <;> rfl

theorem tell_eq_goOn (notice : Notice) (notices : List Notice) :
    tell service state (notice :: notices)
      = goOn service state .finish ⟨notice, (state.channels.get notice.topic).listeners, notices⟩ := by
  simp only [tell, goOn, runReaction]
  rcases tellListeners service notice state _ with ⟨after, _ | ⟨stop, rest⟩⟩ <;> rfl

/-- A listener that makes no calls comes to its end, however often it waits. -/
theorem ends_reaction {telling : Telling L}
    (next : ∀ state, Ends service outage (afterTelling task answer (goOn service state .finish telling)))
    {reaction : Reaction L} (silent : reaction.CallsOnly fun _ => False) (state : State L) :
    Ends service outage (afterTelling task answer (goOn service state reaction telling)) := by
  induction reaction generalizing state with
  | finish | fail => exact next state
  | change topic made rest ih => exact ih silent _
  | wait rest ih =>
    have goes_on := ih silent state
    rw [← @afterTelling_phase L task answer (.telling answer rest telling)] at goes_on
    exact goes_on.of_step
  | call => exact silent.1.elim

variable (mute : ∀ told listener notice, (service.react told listener notice).CallsOnly fun _ => False)

include mute

theorem ends_tell (alone : task.waiting = []) (notices : List Notice) (state : State L) :
    Ends service outage (afterTelling task answer (tell service state notices)) := by
  induction notices generalizing state with
  | nil =>
    refine ⟨0, ?_⟩
    simp [tell, afterTelling, steps, Task.outcome?, alone]
  | cons notice rest ih =>
    rw [tell_eq_goOn]
    generalize (state.channels.get notice.topic).listeners = listeners
    induction listeners generalizing state with
    | nil => exact ih state
    | cons listener more next =>
      rw [goOn_next]
      exact ends_reaction next (mute state.deliveries listener notice) _

/-- A call that nothing is in the way of comes to its end, by induction on how far it has to go up to the telling. -/
theorem ends_undisturbed (own : task.CallsOnly fun _ => False) (undisturbed : task.Undisturbed)
    (free : task.phase.Waits → task.identity ∉ state.locked) : Ends service outage (state, task) := by
  induction left : task.phase.toGo using Nat.strong_induction_on generalizing state task with
  | _ left_now ih =>
    subst left
    cases returns : task.outcome? with
    | some outcome => exact ⟨0, by simp [steps, returns]⟩
    | none =>
      have going : task.phase.toGo ≠ 0 := fun done => outcome?_of_toGo undisturbed done returns
      refine .of_step ?_
      rcases task.phase.open_or_saved_or_done with opened | ⟨old, new, saved⟩ | done
      · have moved : Moved service state task _ _ := moved_step service outage
        have still : (step service outage state task).2.CallsOnly fun _ => False := step_callsOnly service outage mute own
        have calm : (step service outage state task).2.Undisturbed :=
          ⟨alone_of_mute still, (moved.unheard opened).2.2⟩
        obtain ⟨passed, nearer⟩ := moved.toGo_lt calm going free
        exact ih _ nearer still calm (fun waits => absurd waits passed) rfl
      · simp only [step, saved, announce]
        split
        · exact ⟨0, by simp [steps, Task.outcome?, undisturbed.1]⟩
        · exact ends_tell mute undisturbed.1 _ _
      · cases phase : task.phase <;> simp_all [Phase.Done, Phase.toGo]

theorem exists_perform {call : Call} (free : call.identity ∉ state.locked) (outage : Outage) :
    ∃ enough, ∀ limit, enough ≤ limit → (service.perform outage limit state call).2 ≠ none := by
  obtain ⟨enough, returns⟩ : Ends service outage (state, { call }) :=
    ends_undisturbed mute (callsOnly_fresh _ call) (Task.undisturbed_fresh call) fun _ => free
  refine ⟨enough, fun limit longer => ?_⟩
  rw [perform_of_over longer returns]
  exact returns

end Ends

end Service

end Progression
