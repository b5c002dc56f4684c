import Mathlib.Data.List.Induction
import Progression.Proofs.Alone

namespace Progression

open LevelChange

variable {L : Type}

theorem Mutation.length_levelNotices_le_one {mutation : Mutation} {identity : Identity} {old new : Nat} :
    (mutation.levelNotices identity old new).length ≤ 1 := by
  rw [levelNotices]
  split
  · split <;> simp
  · split
    · split <;> simp
    · simp

theorem Mutation.not_untold_self {mutation : Mutation} {level : Nat} : ¬ mutation.Untold level level := by
  rintro (⟨-, falls⟩ | ⟨-, rises⟩)
  · exact lt_irrefl level falls
  · exact lt_irrefl level rises

namespace Call

/-- What is told of the level of an identity if it is another one after a call. -/
def levelNotices (identity : Identity) (old new : Nat) (call : Call) : List Notice :=
  match call.request with
  | .ask _ => []
  | .change mutation => if call.identity = identity then mutation.levelNotices identity old new else []

/-- Whether a call makes the level of an identity another one, and no notice tells of it. -/
def Untold (identity : Identity) (old new : Nat) (call : Call) : Prop :=
  ∃ mutation, call = ⟨identity, .change mutation⟩ ∧ mutation.Untold old new

/-- Whether a call leaves the XP of an identity alone. -/
def LeavesAlone (identity : Identity) (call : Call) : Prop :=
  call.identity = identity → ∃ query, call.request = .ask query

variable {call : Call} {identity : Identity} {old new : Nat}

theorem leavesAlone_or (identity : Identity) (call : Call) :
    call.LeavesAlone identity ∨ ∃ mutation, call = ⟨identity, .change mutation⟩ := by
  obtain ⟨own, request⟩ := call
  cases request with
  | ask query => exact .inl fun _ => ⟨query, rfl⟩
  | change mutation =>
    by_cases same : own = identity
    · subst same
      exact .inr ⟨mutation, rfl⟩
    · exact .inl fun own => absurd own same

theorem levelNotices_change {mutation : Mutation} :
    levelNotices identity old new ⟨identity, .change mutation⟩ = mutation.levelNotices identity old new := by
  simp [levelNotices]

theorem levelNotices_of_leavesAlone (leaves : call.LeavesAlone identity) : call.levelNotices identity old new = [] := by
  rw [levelNotices]
  split
  · rfl
  · rename_i mutation changes
    refine if_neg fun own => ?_
    obtain ⟨query, asks⟩ := leaves own
    cases asks.symm.trans changes

theorem length_levelNotices_le_one : (call.levelNotices identity old new).length ≤ 1 := by
  rcases leavesAlone_or identity call with leaves | ⟨mutation, rfl⟩
  · simp [levelNotices_of_leavesAlone leaves]
  · rw [levelNotices_change]
    exact Mutation.length_levelNotices_le_one

theorem levelNotices_self {level : Nat} : call.levelNotices identity level level = [] := by
  rcases leavesAlone_or identity call with leaves | ⟨mutation, rfl⟩
  · exact levelNotices_of_leavesAlone leaves
  · simp [levelNotices_change, Mutation.levelNotices]

/-- Who follows what is told of a level arrives where the level is, unless the call goes untold. -/
theorem follow_levelNotices (kept : call.LeavesAlone identity → new = old) :
    follow old (levelChanges (call.levelNotices identity old new)) = some new ↔ ¬ call.Untold identity old new := by
  rcases leavesAlone_or identity call with leaves | ⟨mutation, rfl⟩
  · have told : ¬ call.Untold identity old new := by
      rintro ⟨mutation, rfl, -⟩
      obtain ⟨query, asks⟩ := leaves rfl
      cases asks
    rw [levelNotices_of_leavesAlone leaves, kept leaves]
    exact ⟨fun _ => kept leaves ▸ told, fun _ => rfl⟩
  · rw [levelNotices_change, Mutation.follow_levelNotices, not_iff_not]
    exact ⟨fun untold => ⟨mutation, rfl, untold⟩, fun ⟨other, same, untold⟩ => by cases same; exact untold⟩

end Call

/-- A call that is performed: what the store fails with meanwhile, and how many steps there is time for. -/
structure Operation where
  call : Call
  outage : Outage := {}
  steps : Nat := 5

def Operation.perform [DecidableEq L] (service : Service L) (state : Service.State L) (operation : Operation) :
    Service.State L × Option Outcome :=
  service.perform operation.outage operation.steps state operation.call

namespace Service

section World

variable [DecidableEq L] {service : Service L} {world : World L} {task : Task L} {observer : L} {often : Topic → Nat}
  {identity : Identity} {index : Nat}

theorem pending_of_due (due : task.due identity index ≠ [])
    (outermost : ∀ commit ∈ task.due identity index, commit.depth = 0) : task.pending observer often = [] := by
  obtain ⟨commit, member⟩ := List.exists_mem_of_ne_nil _ due
  obtain ⟨-, depth, -, saved⟩ := announcement?_eq_some (mem_due.1 member).1
  have alone : task.waiting = [] := List.length_eq_zero_iff.1 (depth.symm.trans (outermost commit member))
  simp [Task.pending, saved, alone]

theorem pending_of_over (completed : task.outcome? ≠ none) : task.pending observer often = [] := by
  obtain ⟨outcome, ended⟩ := Option.ne_none_iff_exists'.1 completed
  obtain ⟨finished, alone⟩ := Task.outcome?_eq_some.1 ended
  simp [Task.pending, finished, alone]

/-- If no other call waits for one that changes the XP of an identity, what a task tells and is still to tell of it
grows by what it announces of it. -/
theorem about_told (spares : ∀ told listener notice, (service.react told listener notice).Spares observer)
    {state : State L} (registered : state.channels.registrations observer = often) (own : task.Spares observer)
    (outermost : ∀ commit ∈ task.due identity index, commit.depth = 0) (outage : Outage) :
    noticesAbout identity (heard observer (step service outage state task).1.deliveries
        ++ (step service outage state task).2.pending observer often)
      = noticesAbout identity (heard observer state.deliveries ++ task.pending observer often)
        ++ copies often ((task.due identity index).flatMap (Commit.notices service.formula)) := by
  obtain ⟨told, -⟩ := step_told spares registered own index outage
  rw [told.heard, noticesAbout_append, noticesAbout_append, noticesAbout_append, noticesAbout_copies,
    Commit.noticesAbout_log, ← Task.due, List.append_assoc]
  by_cases due : task.due identity index = []
  · rw [due]
    simp
  · rw [pending_of_due due outermost]
    simp [noticesAbout]

/-- The run lemma of a task that has no other beside it. -/
theorem World.about_told_run (spares : ∀ told listener notice, (service.react told listener notice).Spares observer)
    (registered : world.state.channels.registrations observer = often) (alone : world.tasks = [task])
    (own : task.Spares observer) (schedule : List (Nat × Outage))
    (outermost : ∀ commit ∈ Commit.about identity (world.announcements service schedule), commit.depth = 0) :
    ∃ final, (world.run service schedule).tasks = [final] ∧
      (world.run service schedule).state.channels.registrations observer = often ∧
      noticesAbout identity (heard observer (world.run service schedule).state.deliveries
          ++ final.pending observer often)
        = noticesAbout identity (heard observer world.state.deliveries ++ task.pending observer often)
          ++ copies often ((Commit.about identity (world.announcements service schedule)).flatMap
            (Commit.notices service.formula)) := by
  induction schedule generalizing world task with
  | nil => exact ⟨task, alone, registered, (List.append_nil _).symm⟩
  | cons turn rest ih =>
    rw [World.announcements, Commit.about_append] at outermost ⊢
    rw [List.forall_mem_append] at outermost
    rw [List.flatMap_append, copies_append, ← List.append_assoc]
    by_cases first : turn.1 = 0
    · have present : world.tasks[turn.1]? = some task := by rw [alone, first, List.getElem?_cons_zero]
      have announced : Commit.about identity (world.announcement? turn.1).toList = task.due identity turn.1 := by
        rw [World.announcement?, present]
        rfl
      have stands : (world.step service turn.1 turn.2).tasks = [(Service.step service turn.2 world.state task).2] := by
        rw [World.step_eq present, alone, first]
        rfl
      rw [announced] at outermost ⊢
      obtain ⟨told, spared⟩ := step_told spares registered own turn.1 turn.2
      rw [← about_told spares registered own outermost.1 turn.2]
      have state : (world.step service turn.1 turn.2).state = (Service.step service turn.2 world.state task).1 := by
        rw [World.step_eq present]
      rw [← state] at told ⊢
      exact ih (told.registrations.trans registered) stands spared outermost.2
    · have absent : world.tasks[turn.1]? = none := by
        rw [alone]
        exact List.getElem?_eq_none (by simp; omega)
      have same : world.step service turn.1 turn.2 = world := World.step_of_absent absent
      have nothing : Commit.about identity (world.announcement? turn.1).toList = [] := by
        rw [World.announcement?, absent]
        rfl
      rw [same] at outermost ⊢
      rw [nothing]
      rw [World.run_cons, same, List.flatMap_nil, copies_nil, List.append_nil]
      exact ih registered alone own outermost.2

end World

section Perform

variable [DecidableEq L] {service : Service L} {observer : L} {identity : Identity}
  (spared : ∀ told listener notice, (service.react told listener notice).CallsOnly (Call.LeavesAlone identity))

include spared

/-- If listeners leave the XP of an identity alone, all changes of it that are saved while a call is performed are those
of the call. -/
theorem World.own_of_alone (start : State L) (call : Call) (schedule : List (Nat × Outage)) :
    let log := Commit.about identity ((World.begin start [call]).commits service schedule)
    (∀ commit ∈ log, call = ⟨identity, .change commit.mutation⟩) ∧ Commit.outermost 0 log = log := by
  intro log
  have given : ∀ commit ∈ log, [call][commit.task]? = some ⟨identity, .change commit.mutation⟩ :=
    World.mem_calls_of_commit schedule spared
  have depths : ∀ commit ∈ log, commit.depth = 0 := World.depth_eq_zero start [call] schedule spared
  have own : ∀ commit ∈ log, commit.task = 0 ∧ call = ⟨identity, .change commit.mutation⟩ := by
    intro commit member
    have made := given commit member
    rw [List.getElem?_singleton] at made
    split at made
    · rename_i first
      exact ⟨first, Option.some.inj made⟩
    · cases made
  refine ⟨fun commit member => (own commit member).2, List.filter_eq_self.2 fun commit member => ?_⟩
  simp [(own commit member).1, depths commit member]

/-- If listeners leave the XP of an identity alone, a call that came to its end has saved at most the one change of it
that the call is. -/
theorem World.log_of_alone {start : State L} {call : Call} {schedule : List (Nat × Outage)} {task : Task L}
    (ends : ((World.begin start [call]).run service schedule).tasks = [task]) (completed : task.outcome? ≠ none) :
    Commit.about identity ((World.begin start [call]).commits service schedule) = [] ∨
      ∃ commit, Commit.about identity ((World.begin start [call]).commits service schedule) = [commit] ∧
        call = ⟨identity, .change commit.mutation⟩ := by
  obtain ⟨own, outermost⟩ := World.own_of_alone spared start call schedule
  generalize logged : Commit.about identity ((World.begin start [call]).commits service schedule) = log at own outermost
  by_cases empty : log = []
  · exact .inl empty
  · obtain ⟨commit, member⟩ := List.exists_mem_of_ne_nil _ empty
    obtain rfl := own commit member
    obtain ⟨outcome, ended⟩ := Option.ne_none_iff_exists'.1 completed
    have present : ((World.begin start [⟨identity, .change commit.mutation⟩]).run service schedule).tasks[0]?
        = some task := by rw [ends, List.getElem?_cons_zero]
    have accounts := Commit.accounts_about (World.commits_of_outcome rfl rfl present ended)
    rw [logged] at accounts
    cases outcome with
    | error fault => exact absurd (outermost.symm.trans accounts) empty
    | ok answer =>
      obtain ⟨old, new, only, -⟩ := accounts
      exact .inr ⟨_, outermost.symm.trans only, rfl⟩

end Perform

/-- A service between calls that has its store, and XP of an identity within the range; a listener is registered once
for both topics of levels. -/
structure Attended [DecidableEq L] (identity : Identity) (observer : L) (state : State L) : Prop where
  settled : state.Settled
  ready : state.store.Ready
  inRange : 0 ≤ state.stored identity ∧ state.stored identity ≤ maxXp
  up : state.channels.registrations observer .levelUp = 1
  down : state.channels.registrations observer .levelDown = 1

/-- What the performance of a call has come to: the service is between calls again, the XP of the identity is as it was
or as the call was to change it, and the listener was told what is to be told of the level. -/
structure Performed [DecidableEq L] (service : Service L) (observer : L) (identity : Identity) (call : Call)
    (before after : State L) : Prop where
  attended : Attended identity observer after
  stored : after.stored identity = before.stored identity ∨ ∃ mutation, call = ⟨identity, .change mutation⟩ ∧
    after.stored identity = mutation.apply service.formula (before.stored identity)
  told : noticesOfLevel identity (heard observer after.deliveries)
    = noticesOfLevel identity (heard observer before.deliveries)
      ++ call.levelNotices identity (service.formula.levelForXp (before.stored identity))
        (service.formula.levelForXp (after.stored identity))

theorem Performed.level_eq [DecidableEq L] {service : Service L} {observer : L} {identity : Identity} {call : Call}
    {before after : State L} (performed : Performed service observer identity call before after)
    (leaves : call.LeavesAlone identity) :
    service.formula.levelForXp (after.stored identity) = service.formula.levelForXp (before.stored identity) := by
  rcases performed.stored with same | ⟨mutation, rfl, -⟩
  · rw [same]
  · obtain ⟨query, asks⟩ := leaves rfl
    cases asks

section Attended

variable [DecidableEq L] {service : Service L} {observer : L} {identity : Identity} {state : State L}

omit [DecidableEq L] in
theorem Consistent.settled {world : World L} (consistent : Consistent service world)
    (completed : ∀ task ∈ world.tasks, task.outcome? ≠ none) : world.state.Settled := by
  have free (identity : Identity) : identity ∉ world.state.locked := consistent.free completed
  exact ⟨List.eq_nil_iff_forall_not_mem.2 free, fun identity => consistent.agrees identity (free identity)⟩

theorem State.Settled.announced_of_over (settled : state.Settled) {calls : List Call} {schedule : List (Nat × Outage)}
    (completed : ∀ task ∈ ((World.begin state calls).run service schedule).tasks, task.outcome? ≠ none) :
    Commit.about identity ((World.begin state calls).announcements service schedule)
      = Commit.about identity ((World.begin state calls).commits service schedule) := by
  obtain ⟨left, unannounced, split⟩ := (settled.consistent calls : Consistent service _).announced_run
    (World.unannounced_begin : World.Unannounced _ identity []) schedule
  rw [List.nil_append, unannounced.eq_nil completed, List.append_nil] at split
  exact split.symm

section Lone

variable {call : Call} {schedule : List (Nat × Outage)} {after : State L} {task : Task L}

theorem Attended.ready_run (attended : Attended identity observer state)
    (ran : (World.begin state [call]).run service schedule = ⟨after, [task]⟩) : after.store.Ready := by
  obtain ⟨rows, same⟩ : ∃ rows, ((World.begin state [call]).run service schedule).state.store
      = { state.store with rows } := World.store_run _ schedule
  rw [ran] at same
  have store : after.store = { state.store with rows } := same
  rw [store]
  exact attended.ready

variable
  (spared : ∀ told listener notice, (service.react told listener notice).CallsOnly (Call.LeavesAlone identity))
  (spares : ∀ told listener notice, (service.react told listener notice).Spares observer)
  (attended : Attended identity observer state)
  (ran : (World.begin state [call]).run service schedule = ⟨after, [task]⟩) (completed : task.outcome? ≠ none)

include spared spares attended ran completed

/-- Once a call is over, the listener is registered as before, and was told of the level what the saved changes have
to tell. -/
theorem Attended.heard_run :
    after.channels.registrations observer = state.channels.registrations observer ∧
      noticesOfLevel identity (heard observer after.deliveries)
        = noticesOfLevel identity (heard observer state.deliveries)
          ++ ((Commit.about identity ((World.begin state [call]).commits service schedule)).flatMap
            (Commit.notices service.formula)).filter Notice.isLevel := by
  have announced : Commit.about identity ((World.begin state [call]).announcements service schedule)
      = Commit.about identity ((World.begin state [call]).commits service schedule) := by
    refine attended.settled.announced_of_over ?_
    rw [ran]
    simpa using completed
  have outermost := World.depth_eq_zero state [call] schedule spared
  obtain ⟨final, stands, registered, told⟩ := World.about_told_run spares rfl rfl
    (Task.undisturbed_fresh call).spares schedule (announced ▸ outermost)
  rw [ran] at stands registered told
  obtain rfl : task = final := List.singleton_inj.1 stands
  rw [(Task.undisturbed_fresh call).pending, pending_of_over completed, List.append_nil, List.append_nil, announced] at told
  refine ⟨registered, ?_⟩
  rw [← filter_isLevel_copies attended.up attended.down, noticesOfLevel, told, List.filter_append]
  rfl

theorem Attended.run : Performed service observer identity call state after := by
  have all_over : ∀ other ∈ [task], other.outcome? ≠ none := by simpa using completed
  have consistent : Consistent service (World.begin state [call]) := attended.settled.consistent [call]
  have later : Consistent service ⟨after, [task]⟩ := ran ▸ consistent.run schedule
  have log := World.log_of_alone spared (congrArg World.tasks ran) completed
  obtain ⟨registrations, news⟩ := attended.heard_run spared spares ran completed
  obtain ⟨chained, ends⟩ := consistent.chained identity schedule
  rw [ran] at ends
  have own : ∀ commit ∈ Commit.about identity ((World.begin state [call]).commits service schedule),
      commit.identity = identity := fun commit member => (Commit.mem_about.1 member).2
  generalize Commit.about identity ((World.begin state [call]).commits service schedule) = saved at *
  have stored : after.stored identity = Commit.last (state.stored identity) saved := ends
  have kept : Attended identity observer after :=
    ⟨later.settled all_over, attended.ready_run ran, stored ▸ Commit.last_inRange chained attended.inRange,
      registrations ▸ attended.up, registrations ▸ attended.down⟩
  rcases log with rfl | ⟨commit, rfl, rfl⟩
  · have same : after.stored identity = state.stored identity := stored
    refine ⟨kept, .inl same, ?_⟩
    rw [news, same, Call.levelNotices_self]
    rfl
  · obtain ⟨old, new, -⟩ := chained
    have started : commit.old = state.stored identity := old
    have ended : after.stored identity = commit.new := stored
    refine ⟨kept, .inr ⟨commit.mutation, rfl, ended.trans new⟩, ?_⟩
    rw [news, List.flatMap_singleton, Commit.notices, Mutation.filter_isLevel_notices, started, ended,
      own commit (List.mem_singleton_self _), Call.levelNotices_change]

end Lone

theorem Attended.perform
    (spared : ∀ told listener notice, (service.react told listener notice).CallsOnly (Call.LeavesAlone identity))
    (spares : ∀ told listener notice, (service.react told listener notice).Spares observer)
    (attended : Attended identity observer state) {operation : Operation}
    (completed : (operation.perform service state).2 ≠ none) :
    Performed service observer identity operation.call state (operation.perform service state).1 := by
  obtain ⟨task, run, outcome⟩ := perform_eq_run operation.outage operation.steps state operation.call
  exact attended.run spared spares run (outcome ▸ completed)

end Attended

/-- Perform calls one after another. -/
def performAll [DecidableEq L] (service : Service L) (state : State L) (operations : List Operation) : State L :=
  operations.foldl (fun state operation => (operation.perform service state).1) state

/-- What a listener was told of the level of an identity between two states. -/
def levelNews [DecidableEq L] (observer : L) (identity : Identity) (before after : State L) : List Notice :=
  (noticesOfLevel identity (heard observer after.deliveries)).drop
    (noticesOfLevel identity (heard observer before.deliveries)).length

theorem levelNews_eq [DecidableEq L] {observer : L} {identity : Identity} {before after : State L} {news : List Notice}
    (told : noticesOfLevel identity (heard observer after.deliveries)
      = noticesOfLevel identity (heard observer before.deliveries) ++ news) :
    levelNews observer identity before after = news := by
  rw [levelNews, told, List.drop_left]

section Main

variable [DecidableEq L] {service : Service L} {observer : L} {identity : Identity} {start : State L}
  {operations : List Operation}
  (spared : ∀ told listener notice, (service.react told listener notice).CallsOnly (Call.LeavesAlone identity))
  (spares : ∀ told listener notice, (service.react told listener notice).Spares observer)
  (attended : Attended identity observer start)
  (completed : ∀ done operation, done ++ [operation] <+: operations →
    (operation.perform service (service.performAll start done)).2 ≠ none)

omit [DecidableEq L] in
theorem prefix_of_append_singleton {done : List Operation} {operation : Operation}
    (begins : done ++ [operation] <+: operations) : done <+: operations := (List.prefix_append ..).trans begins

theorem performAll_append_singleton {done : List Operation} {operation : Operation} :
    service.performAll start (done ++ [operation]) = (operation.perform service (service.performAll start done)).1 := by
  rw [performAll, List.foldl_append]
  rfl

include spared spares attended completed

/-- The run lemma: the service is between calls after each of them. -/
theorem Attended.performAll {done : List Operation} (begins : done <+: operations) :
    Attended identity observer (service.performAll start done) := by
  induction done using List.reverseRecOn with
  | nil => exact attended
  | append_singleton done operation ih =>
    rw [performAll_append_singleton]
    exact ((ih (prefix_of_append_singleton begins)).perform spared spares (completed done operation begins)).attended

theorem Attended.performed {done : List Operation} {operation : Operation}
    (begins : done ++ [operation] <+: operations) :
    Performed service observer identity operation.call (service.performAll start done)
      (service.performAll start (done ++ [operation])) := by
  have before := attended.performAll spared spares completed (prefix_of_append_singleton begins)
  rw [performAll_append_singleton]
  exact before.perform spared spares (completed done operation begins)

theorem Attended.noticesOfLevel_eq {done : List Operation} (begins : done <+: operations) :
    noticesOfLevel identity (heard observer (service.performAll start done).deliveries)
      = noticesOfLevel identity (heard observer start.deliveries)
        ++ levelNews observer identity start (service.performAll start done) := by
  induction done using List.reverseRecOn with
  | nil =>
    have nothing : levelNews observer identity start (service.performAll start []) = [] :=
      levelNews_eq (List.append_nil _).symm
    rw [nothing, List.append_nil]
    rfl
  | append_singleton done operation ih =>
    have told := (attended.performed spared spares completed begins).told
    rw [ih (prefix_of_append_singleton begins), List.append_assoc] at told
    rw [levelNews_eq told]
    exact told

theorem Attended.levelNews_append {done : List Operation} {operation : Operation}
    (begins : done ++ [operation] <+: operations) :
    levelNews observer identity start (service.performAll start (done ++ [operation]))
      = levelNews observer identity start (service.performAll start done)
        ++ operation.call.levelNotices identity
          (service.formula.levelForXp ((service.performAll start done).stored identity))
          (service.formula.levelForXp ((service.performAll start (done ++ [operation])).stored identity)) := by
  have told := (attended.performed spared spares completed begins).told
  rw [attended.noticesOfLevel_eq spared spares completed (prefix_of_append_singleton begins), List.append_assoc] at told
  exact levelNews_eq told

end Main

/-- Calls are performed one after another and come to their ends; listeners leave the XP of an identity alone, and one
that is registered once for both topics of levels follows its level, from the level at the start. After each call the
service answers by the level that there is. Of each call the listener is told at most once: that the level rose,
unless XP was to be removed, or that it fell, unless XP was to be added. So it holds the level that there is after each
call just if no call goes untold, for which an amount below zero is needed. If listeners neither wait nor call, five
steps are enough for a call. -/
theorem level_mirrored_iff [DecidableEq L] (service : Service L) {observer : L} {identity : Identity}
    (spared : ∀ told listener notice, (service.react told listener notice).CallsOnly (Call.LeavesAlone identity))
    (spares : ∀ told listener notice, (service.react told listener notice).Spares observer) {start : State L}
    (attended : Attended identity observer start) {operations : List Operation}
    (completed : ∀ done operation, done ++ [operation] <+: operations →
      (operation.perform service (service.performAll start done)).2 ≠ none) :
    let after (done : List Operation) := service.performAll start done
    let level (done : List Operation) := service.formula.levelForXp ((after done).stored identity)
    let told (done : List Operation) := levelNews observer identity start (after done)
    (∀ done, done <+: operations → (service.perform {} 3 (after done) ⟨identity, .ask .level⟩).2
      = some (.ok (.number (level done)))) ∧
    (∀ done operation, done ++ [operation] <+: operations →
      let notices := operation.call.levelNotices identity (level done) (level (done ++ [operation]))
      told (done ++ [operation]) = told done ++ notices ∧ notices.length ≤ 1) ∧
    ((∀ done, done <+: operations → follow (level []) (levelChanges (told done)) = some (level done)) ↔
      ∀ done operation, done ++ [operation] <+: operations →
        ¬ operation.call.Untold identity (level done) (level (done ++ [operation]))) ∧
    (∀ done operation mutation, done ++ [operation] <+: operations →
      operation.call = ⟨identity, .change mutation⟩ → mutation.Untold (level done) (level (done ++ [operation])) →
        ¬ mutation.Forward) ∧
    ((∀ told listener notice, (service.react told listener notice).Prompt) → ∀ done, done <+: operations →
      ∀ operation : Operation, 5 ≤ operation.steps → (operation.perform service (after done)).2 ≠ none) := by
  intro after level told
  have appended (done : List Operation) (operation : Operation) (begins : done ++ [operation] <+: operations) :
      told (done ++ [operation])
        = told done ++ operation.call.levelNotices identity (level done) (level (done ++ [operation])) :=
    attended.levelNews_append spared spares completed begins
  have kept (done : List Operation) (operation : Operation) (begins : done ++ [operation] <+: operations) :
      operation.call.LeavesAlone identity → level (done ++ [operation]) = level done :=
    (attended.performed spared spares completed begins).level_eq
  refine ⟨fun done begins => ?_, fun done operation begins => ⟨appended done operation begins, ?_⟩,
    ⟨fun follows done operation begins => ?_, fun all_told done => ?_⟩,
    fun done operation mutation begins changes untold forward => ?_,
    fun prompt done begins operation enough => ?_⟩
  · have lull := attended.performAll spared spares completed begins
    exact perform_ask (lull.settled.free ▸ List.not_mem_nil) (lull.settled.agrees identity) lull.ready
  · exact Call.length_levelNotices_le_one
  · have now := follows _ begins
    rw [appended done operation begins, levelChanges_append, follow_append,
      follows done (prefix_of_append_singleton begins)] at now
    exact (Call.follow_levelNotices (kept done operation begins)).1 now
  · induction done using List.reverseRecOn with
    | nil =>
      intro _
      have nothing : told [] = [] := levelNews_eq (List.append_nil _).symm
      rw [nothing]
      rfl
    | append_singleton done operation ih =>
      intro begins
      rw [appended done operation begins, levelChanges_append, follow_append, ih (prefix_of_append_singleton begins)]
      exact (Call.follow_levelNotices (kept done operation begins)).2 (all_told done operation begins)
  · have lull := attended.performAll spared spares completed (prefix_of_append_singleton begins)
    rcases (attended.performed spared spares completed begins).stored with same | ⟨other, same, stored⟩
    · have level_same : level (done ++ [operation]) = level done := congrArg service.formula.levelForXp same
      rw [level_same] at untold
      exact Mutation.not_untold_self untold
    · cases changes.symm.trans same
      have applied : level (done ++ [operation])
          = service.formula.levelForXp (mutation.apply service.formula ((after done).stored identity)) :=
        congrArg service.formula.levelForXp stored
      rw [applied] at untold
      exact Mutation.not_untold_of_forward forward lull.inRange untold
  · have lull := attended.performAll spared spares completed begins
    exact perform_over prompt (lull.settled.free ▸ List.not_mem_nil) operation.outage enough

/-- A listener that holds level 6 follows it while 130 XP are added and 300 removed. -/
theorem level_mirrored_iff_rise_fall :
    let operations : List Operation :=
      [{ call := ⟨"a", .change (.addXp 130)⟩ }, { call := ⟨"a", .change (.removeXp 300)⟩ }]
    ∀ done, done <+: operations →
      follow 6 (levelChanges (levelNews () "a" watchedStart (quiet.performAll watchedStart done)))
        = some (quiet.formula.levelForXp ((quiet.performAll watchedStart done).stored "a")) := by
  intro operations
  have attended : Attended "a" () watchedStart :=
    ⟨⟨rfl, fun _ _ known => nomatch known⟩, ⟨rfl, rfl⟩, by decide, rfl, rfl⟩
  have turns : ∀ done operation, done ++ [operation] <+: operations →
      done = [] ∧ operation = { call := ⟨"a", .change (.addXp 130)⟩ } ∨
        done = [{ call := ⟨"a", .change (.addXp 130)⟩ }] ∧ operation = { call := ⟨"a", .change (.removeXp 300)⟩ } := by
    rintro done operation ⟨rest, same⟩
    rcases done with _ | ⟨first, _ | ⟨second, more⟩⟩
    · exact .inl ⟨rfl, (List.cons.inj same).1⟩
    · obtain ⟨one, later⟩ := List.cons.inj same
      exact .inr ⟨congrArg (fun first => [first]) one, (List.cons.inj later).1⟩
    · simp [operations] at same
  have completed : ∀ done operation, done ++ [operation] <+: operations →
      (operation.perform quiet (quiet.performAll watchedStart done)).2 ≠ none := by
    intro done operation begins
    rcases turns done operation begins with ⟨rfl, rfl⟩ | ⟨rfl, rfl⟩ <;> decide +kernel
  obtain ⟨-, -, ⟨-, follows⟩, untold, -⟩ := level_mirrored_iff quiet (fun _ _ _ => trivial) (fun _ _ _ => trivial)
    attended completed
  have level : quiet.formula.levelForXp (watchedStart.stored "a") = 6 := by decide +kernel
  rw [← level]
  refine follows fun done operation begins lost => ?_
  obtain ⟨mutation, same, lost⟩ := lost
  refine untold done operation mutation begins same lost ?_
  rcases turns done operation begins with ⟨-, rfl⟩ | ⟨-, rfl⟩ <;> cases same <;> simp [Mutation.Forward]

/-- When 300 XP below zero are added to 500, the level falls from 6 to 3, and a listener that holds level 6 is told
nothing of it. -/
theorem level_falls_untold :
    let after := (Operation.perform quiet watchedStart { call := ⟨"a", .change (.addXp (-300))⟩ }).1
    (quiet.perform {} 3 watchedStart ⟨"a", .ask .level⟩).2 = some (.ok (.number 6)) ∧
      (quiet.perform {} 3 after ⟨"a", .ask .level⟩).2 = some (.ok (.number 3)) ∧
      levelNews () "a" watchedStart after = [] ∧
      follow 6 (levelChanges (levelNews () "a" watchedStart after)) ≠ some 3 := by
  decide +kernel

end Service

end Progression
