import Progression.Proofs.LevelNotices

/-!
The order in which saved changes are announced. A change is announced with the lock that it was saved under, so that
the changes of an identity are announced in the order in which they were saved. If listeners neither wait nor make
calls, all that is told of a change is told at once.
-/

namespace Progression

open LevelChange

variable {L : Type}

/-- The call that a task began with. -/
def Task.first (task : Task L) : Call := (task.waiting.getLast?.map Waiting.call).getD task.call

/-- Whether a listener neither waits nor makes a call. -/
def Reaction.Prompt : Reaction L → Prop
  | .finish => True
  | .fail => True
  | .change _ _ rest => rest.Prompt
  | .wait _ => False
  | .call _ _ => False

/-- The saved change of an identity that a task announces in its next step, if there is one. -/
def Task.due (identity : Identity) (index : Nat) (task : Task L) : List Commit :=
  Commit.about identity (task.announcement? index).toList

/-- Whether no listener of a task waits or has made a call. -/
def Task.Undisturbed (task : Task L) : Prop :=
  task.waiting = [] ∧ ∀ answer reaction rest, task.phase ≠ .telling answer reaction rest

theorem Commit.Chained.of_append {formula : Formula} {start : Int} {first second : List Commit}
    (chained : Chained formula start (first ++ second)) : Chained formula start first := by
  induction first generalizing start with
  | nil => trivial
  | cons commit rest ih => exact ⟨chained.1, chained.2.1, ih chained.2.2⟩

theorem Commit.about_append {identity : Identity} {first second : List Commit} :
    about identity (first ++ second) = about identity first ++ about identity second := by
  rw [about, List.filter_append]
  rfl

theorem Task.undisturbed_fresh (call : Call) : ({ call } : Task L).Undisturbed :=
  ⟨rfl, fun _ _ _ tells => nomatch tells⟩

theorem Task.Undisturbed.spares {task : Task L} (undisturbed : task.Undisturbed) {observer : L} :
    task.Spares observer := by
  obtain ⟨alone, quiet⟩ := undisturbed
  refine ⟨fun outer waits => ?_, fun answer reaction rest tells => absurd tells (quiet answer reaction rest)⟩
  rw [alone] at waits
  cases waits

theorem Task.Undisturbed.pending [DecidableEq L] {task : Task L} (undisturbed : task.Undisturbed) {observer : L}
    {often : Topic → Nat} : task.pending observer often = [] := by
  obtain ⟨alone, quiet⟩ := undisturbed
  rw [Task.pending, alone, List.flatMap_nil, List.append_nil]
  split
  · rename_i tells
    exact absurd tells (quiet _ _ _)
  · rfl

theorem Reaction.Prompt.callsOnly {allowed : Call → Prop} {reaction : Reaction L} (prompt : reaction.Prompt) :
    reaction.CallsOnly allowed := by
  induction reaction with
  | finish | fail => trivial
  | change topic change rest ih => exact ih prompt
  | wait | call => exact prompt.elim

/-- What is told of notices one after another, of each to some number of listeners. -/
inductive InTurn : List Notice → List Notice → Prop where
  | nil : InTurn [] []
  | cons {notice : Notice} {notices told : List Notice} (count : Nat) (later : InTurn notices told) :
    InTurn (notice :: notices) (List.replicate count notice ++ told)

theorem InTurn.append {first second told later : List Notice} (left : InTurn first told)
    (right : InTurn second later) : InTurn (first ++ second) (told ++ later) := by
  induction left with
  | nil => exact right
  | cons count _ ih =>
    rw [List.cons_append, List.append_assoc]
    exact .cons count ih

namespace Service

section Moves

variable {service : Service L} {state after : State L} {task next : Task L} {index : Nat}

theorem Continued.first {answer : Answer} (continued : Continued answer task next) : next.first = task.first := by
  cases continued with
  | finished | telling => rfl
  | calling =>
    simp only [Task.first, List.getLast?_cons, Option.map_some, Option.getD_some]
    cases task.waiting.getLast? <;> rfl

theorem Moved.first (moved : Moved service state task after next) : next.first = task.first := by
  cases moved with
  | announced _ _ continued | told _ _ continued => exact continued.first
  | returned _ waits _ continued =>
    rw [continued.first, Task.first, Task.first, waits, List.getLast?_cons]
    cases List.getLast? _ <;> rfl
  | blocked | answered | entered | resumed | loaded | queried | prepared | abandoned | saved | idle => rfl

theorem announcement?_eq_none (unsaved : ∀ old new, next.phase ≠ .saved old new) : next.announcement? index = none := by
  rw [Task.announcement?]
  split
  · rename_i saved
    exact absurd saved (unsaved _ _)
  · rfl

theorem announcement?_eq_some {commit : Commit} (announced : task.announcement? index = some commit) :
    commit.task = index ∧ commit.depth = task.waiting.length ∧ commit.identity = task.identity ∧
      task.phase = .saved commit.old commit.new := by
  rw [Task.announcement?] at announced
  split at announced
  · rename_i saved
    cases announced
    exact ⟨rfl, rfl, rfl, saved⟩
  · cases announced

section Due

variable {identity : Identity}

theorem mem_due {commit : Commit} :
    commit ∈ task.due identity index ↔ task.announcement? index = some commit ∧ commit.identity = identity := by
  rw [Task.due, Commit.mem_about, Option.mem_toList]

theorem holds_of_due (due : task.due identity index ≠ []) : task.phase.Holds ∧ task.identity = identity := by
  obtain ⟨commit, member⟩ := List.exists_mem_of_ne_nil _ due
  obtain ⟨announced, own⟩ := mem_due.1 member
  obtain ⟨-, -, same, saved⟩ := announcement?_eq_some announced
  exact ⟨saved ▸ trivial, same.symm.trans own⟩

/-- No two tasks have the same to announce. -/
theorem eq_of_due {rival : Task L} {other : Nat} (same : rival.due identity other = task.due identity index)
    (due : task.due identity index ≠ []) : other = index := by
  obtain ⟨commit, member⟩ := List.exists_mem_of_ne_nil _ due
  obtain ⟨own, -⟩ := announcement?_eq_some (mem_due.1 member).1
  obtain ⟨also, -⟩ := announcement?_eq_some (mem_due.1 (same ▸ member)).1
  exact also.symm.trans own

theorem Moved.silent_of_due (moved : Moved service state task after next) (due : task.due identity index ≠ []) :
    next.due identity index = [] := by
  obtain ⟨commit, member⟩ := List.exists_mem_of_ne_nil _ due
  obtain ⟨-, -, -, saved⟩ := announcement?_eq_some (mem_due.1 member).1
  rcases moved.saves with ⟨unsaved, -⟩ | ⟨old, new, saves, -⟩
  · rw [Task.due, announcement?_eq_none unsaved]
    rfl
  · cases saved.symm.trans saves

theorem Moved.holds_of_saved (moved : Moved service state task after next) (saved : next.due identity index ≠ []) :
    task.phase.Holds ∧ task.identity = identity := by
  rcases moved.saves with ⟨unsaved, -⟩ | ⟨old, new, saves, rfl, -⟩
  · rw [Task.due, announcement?_eq_none unsaved] at saved
    exact absurd rfl saved
  · exact ⟨saves ▸ trivial, (holds_of_due saved).2⟩

end Due

/-- What a task is to announce after a step is what it saved in the step. -/
theorem Moved.announcement?_eq (moved : Moved service state task after next) :
    next.announcement? index = task.commit? index next := by
  rcases moved.saves with ⟨unsaved, -⟩ | ⟨old, new, saves, rfl, -⟩
  · rw [announcement?_eq_none unsaved, commit?_eq_none unsaved]
  · simp only [Task.announcement?, Task.commit?, saves]
    cases task.call.request <;> rfl

theorem first_of_commit? {commit : Commit} (saved : task.commit? index next = some commit)
    (outermost : commit.depth = 0) :
    commit.task = index ∧ task.first = ⟨commit.identity, .change commit.mutation⟩ := by
  rw [Task.commit?] at saved
  split at saved
  · rename_i mutation old new old' new' changes saves ends
    cases saved
    have alone : task.waiting = [] := List.length_eq_zero_iff.1 outermost
    refine ⟨rfl, ?_⟩
    simp only [Task.first, alone, List.getLast?_nil, Option.map_none, Option.getD_none, Task.identity, ← changes]
  · cases saved

end Moves

section Logs

variable [DecidableEq L] {service : Service L} {world : World L}

/-- The change that is announced when a task takes a step. -/
def World.announcement? (world : World L) (index : Nat) : Option Commit :=
  world.tasks[index]?.bind fun task => task.announcement? index

/-- The changes that are announced along a schedule. -/
def World.announcements (service : Service L) (world : World L) : List (Nat × Outage) → List Commit
  | [] => []
  | (index, outage) :: rest =>
    (world.announcement? index).toList ++ (world.step service index outage).announcements service rest

theorem World.run_cons {turn : Nat × Outage} {rest : List (Nat × Outage)} :
    world.run service (turn :: rest) = (world.step service turn.1 turn.2).run service rest := rfl

theorem World.run_append {schedule rest : List (Nat × Outage)} :
    world.run service (schedule ++ rest) = (world.run service schedule).run service rest := List.foldl_append

theorem World.commits_append {schedule rest : List (Nat × Outage)} :
    world.commits service (schedule ++ rest)
      = world.commits service schedule ++ (world.run service schedule).commits service rest := by
  induction schedule generalizing world with
  | nil => rfl
  | cons turn later ih =>
    rw [List.cons_append, commits, commits, ih, List.append_assoc]
    rfl

theorem World.announcements_append {schedule rest : List (Nat × Outage)} :
    world.announcements service (schedule ++ rest)
      = world.announcements service schedule ++ (world.run service schedule).announcements service rest := by
  induction schedule generalizing world with
  | nil => rfl
  | cons turn later ih =>
    rw [List.cons_append, announcements, announcements, ih, List.append_assoc]
    rfl

theorem World.first_run (schedule : List (Nat × Outage)) (index : Nat) :
    (world.run service schedule).tasks[index]?.map Task.first = world.tasks[index]?.map Task.first := by
  induction schedule generalizing world with
  | nil => rfl
  | cons turn rest ih =>
    have later : (World.run service (world.step service turn.1 turn.2) rest).tasks[index]?.map Task.first
        = (world.step service turn.1 turn.2).tasks[index]?.map Task.first := ih
    refine later.trans ?_
    by_cases own : index = turn.1
    · subst own
      cases present : world.tasks[turn.1]? with
      | none => rw [World.step_of_absent present, present]
      | some task =>
        obtain ⟨after, next, moved, becomes⟩ := World.step_of_present service turn.2 present
        rw [becomes]
        simp [getElem?_set_of_some present, moved.first]
    · rw [World.step_of_other own]

/-- The changes that calls save which no other ones wait for are those that the tasks began with. -/
theorem World.first_of_commit (schedule : List (Nat × Outage)) :
    ∀ commit ∈ world.commits service schedule, commit.depth = 0 →
      world.tasks[commit.task]?.map Task.first = some ⟨commit.identity, .change commit.mutation⟩ := by
  induction schedule generalizing world with
  | nil => exact fun commit member => absurd member List.not_mem_nil
  | cons turn rest ih =>
    intro commit member outermost
    rcases List.mem_append.1 member with saved | later
    · obtain ⟨task, present, saved⟩ := Option.bind_eq_some_iff.1 (Option.mem_toList.1 saved)
      obtain ⟨next, -, saved⟩ := Option.bind_eq_some_iff.1 saved
      obtain ⟨same, first⟩ := first_of_commit? saved outermost
      rw [same, present, Option.map_some, first]
    · rw [← ih commit later outermost]
      exact (World.first_run [turn] commit.task).symm

end Logs

section Order

variable [DecidableEq L] {service : Service L} {world : World L} {identity : Identity}

/-- A log of the changes of an identity that are saved and still to be announced: that of the call which has the
lock of the identity, if it has come so far. -/
structure World.Unannounced (world : World L) (identity : Identity) (log : List Commit) : Prop where
  due : log ≠ [] → ∃ (index : Nat) (task : Task L), world.tasks[index]? = some task ∧ task.due identity index = log
  only : ∀ (index : Nat) (task : Task L), world.tasks[index]? = some task →
    task.due identity index = [] ∨ task.due identity index = log

omit [DecidableEq L] in
/-- The step lemma: what a task announces is what was to be announced, and what it saves is what is to be announced
next. -/
theorem World.Unannounced.moved (consistent : Consistent service world) {index : Nat} {task next : Task L}
    {after : State L} (present : world.tasks[index]? = some task) (moved : Moved service world.state task after next)
    {log : List Commit} (unannounced : world.Unannounced identity log) :
    ∃ later, World.Unannounced ⟨after, world.tasks.set index next⟩ identity later ∧
      log ++ Commit.about identity (task.commit? index next).toList = task.due identity index ++ later := by
  obtain ⟨due, only⟩ := unannounced
  have stands : (world.tasks.set index next)[index]? = some next := by simp [getElem?_set_of_some present]
  have saved : Commit.about identity (task.commit? index next).toList = next.due identity index := by
    rw [Task.due, moved.announcement?_eq]
  rw [saved]
  by_cases announces : task.due identity index = []
  · by_cases saves : next.due identity index = []
    · -- The step has nothing to do with what is to be announced.
      refine ⟨log, ⟨fun nonempty => ?_, fun other rival inside => ?_⟩, by rw [saves, announces, List.append_nil]; rfl⟩
      · obtain ⟨holder, rival, inside, same⟩ := due nonempty
        refine ⟨holder, rival, ?_, same⟩
        rw [getElem?_set_of_some present, if_neg]
        · exact inside
        · rintro rfl
          cases present.symm.trans inside
          exact nonempty (same.symm.trans announces)
      · rcases getElem?_set_cases inside with ⟨rfl, rfl⟩ | ⟨-, stood⟩
        · exact .inl saves
        · exact only other rival stood
    · -- The task has the lock, so that nobody else has anything to announce.
      have empty : log = [] := by
        by_contra nonempty
        obtain ⟨holder, rival, inside, same⟩ := due nonempty
        obtain ⟨rival_holds, rival_own⟩ := holds_of_due (same.trans_ne nonempty)
        obtain ⟨holds, own⟩ := moved.holds_of_saved saves
        obtain rfl := consistent.alone inside present rival_holds holds (rival_own.trans own.symm)
        cases present.symm.trans inside
        exact nonempty (same.symm.trans announces)
      refine ⟨next.due identity index, ⟨fun _ => ⟨index, next, stands, rfl⟩, fun other rival inside => ?_⟩, ?_⟩
      · rcases getElem?_set_cases inside with ⟨rfl, rfl⟩ | ⟨-, stood⟩
        · exact .inr rfl
        · exact .inl ((only other rival stood).elim id (·.trans empty))
      · rw [empty, announces]
  · -- What there was to announce is announced.
    have same : task.due identity index = log := (only index task present).resolve_left announces
    have silent : next.due identity index = [] := moved.silent_of_due announces
    refine ⟨[], ⟨fun nonempty => absurd rfl nonempty, fun other rival inside => ?_⟩, by rw [silent, same]⟩
    rcases getElem?_set_cases inside with ⟨rfl, rfl⟩ | ⟨different, stood⟩
    · exact .inl silent
    · refine (only other rival stood).imp_right fun also => ?_
      exact absurd (eq_of_due (also.trans same.symm) announces) different

omit [DecidableEq L] in
theorem World.Unannounced.announces {log : List Commit} (unannounced : world.Unannounced identity log) (index : Nat) :
    Commit.about identity (world.announcement? index).toList = [] ∨
      Commit.about identity (world.announcement? index).toList = log := by
  rw [World.announcement?]
  cases present : world.tasks[index]? with
  | none => exact .inl rfl
  | some task => exact unannounced.only index task present

/-- The run lemma: the changes of an identity are announced in the order in which they are saved. -/
theorem Consistent.announced_run (consistent : Consistent service world) {log : List Commit}
    (unannounced : world.Unannounced identity log) (schedule : List (Nat × Outage)) :
    ∃ later, (world.run service schedule).Unannounced identity later ∧
      log ++ Commit.about identity (world.commits service schedule)
        = Commit.about identity (world.announcements service schedule) ++ later := by
  induction schedule generalizing world log with
  | nil => exact ⟨log, unannounced, List.append_nil log⟩
  | cons turn rest ih =>
    obtain ⟨next, left, step⟩ : ∃ next, (world.step service turn.1 turn.2).Unannounced identity next ∧
        log ++ Commit.about identity (world.commit? service turn.1 turn.2).toList
          = Commit.about identity (world.announcement? turn.1).toList ++ next := by
      cases present : world.tasks[turn.1]? with
      | none =>
        refine ⟨log, ?_, by simp [World.commit?, World.announcement?, present, Commit.about]⟩
        rw [World.step_of_absent present]
        exact unannounced
      | some task =>
        obtain ⟨after, next, moved, becomes⟩ := World.step_of_present service turn.2 present
        rw [World.commit?_of_present present becomes, becomes, World.announcement?, present]
        exact unannounced.moved consistent present moved
    obtain ⟨later, ends, run⟩ := ih (consistent.step turn.1 turn.2) left
    refine ⟨later, ends, ?_⟩
    rw [World.commits, World.announcements, Commit.about_append, Commit.about_append, ← List.append_assoc, step,
      List.append_assoc, run, List.append_assoc]

omit [DecidableEq L] in
theorem World.Unannounced.eq_nil {log : List Commit} (unannounced : world.Unannounced identity log)
    (completed : ∀ task ∈ world.tasks, task.outcome? ≠ none) : log = [] := by
  by_contra nonempty
  obtain ⟨index, task, present, same⟩ := unannounced.due nonempty
  obtain ⟨holds, -⟩ := holds_of_due (same.trans_ne nonempty)
  have ended := completed task (List.mem_of_getElem? present)
  rw [Task.outcome?] at ended
  split at ended
  · rename_i finished _
    rw [finished] at holds
    exact holds
  · exact ended rfl

end Order

section Prompt

variable [DecidableEq L] {service : Service L}

omit [DecidableEq L] in
theorem afterTelling_of_ended (task : Task L) (answer : Answer) {told : State L × Option (Stop L × Telling L)}
    (ended : told.2 = none) :
    afterTelling task answer told = (told.1, { task with phase := .finished (.ok answer) }) := by
  obtain ⟨after, stopped⟩ := told
  subst ended
  rfl

theorem runReaction_of_prompt (state : State L) {reaction : Reaction L} (prompt : reaction.Prompt) :
    (runReaction state reaction).2 = none := by
  induction reaction generalizing state with
  | finish | fail => rfl
  | change topic change rest ih => exact ih _ prompt
  | wait | call => exact prompt.elim

variable (prompt : ∀ told listener notice, (service.react told listener notice).Prompt)

include prompt

theorem tellListeners_of_prompt (notice : Notice) (state : State L) (listeners : List L) :
    (tellListeners service notice state listeners).2 = none ∧
      (tellListeners service notice state listeners).1.deliveries
        = state.deliveries ++ listeners.map fun listener => ⟨listener, notice⟩ := by
  induction listeners generalizing state with
  | nil => exact ⟨rfl, (List.append_nil _).symm⟩
  | cons listener rest ih =>
    have reacted := runReaction_of_prompt { state with deliveries := state.deliveries ++ [⟨listener, notice⟩] }
      (prompt state.deliveries listener notice)
    have delivered := deliveries_runReaction { state with deliveries := state.deliveries ++ [⟨listener, notice⟩] }
      (service.react state.deliveries listener notice)
    rw [tellListeners]
    split <;> rename_i stopped <;> rw [stopped] at reacted delivered
    · rename_i after
      obtain ⟨ends, told⟩ := ih after
      have own : after.deliveries = state.deliveries ++ [⟨listener, notice⟩] := delivered
      refine ⟨ends, ?_⟩
      rw [told, own, List.append_assoc, List.singleton_append, List.map_cons]
    · cases reacted

theorem tell_of_prompt (state : State L) (notices : List Notice) :
    (tell service state notices).2 = none ∧
      ∃ told, (tell service state notices).1.deliveries = state.deliveries ++ told ∧
        InTurn notices (told.map Delivery.notice) := by
  induction notices generalizing state with
  | nil => exact ⟨rfl, [], (List.append_nil _).symm, .nil⟩
  | cons notice rest ih =>
    obtain ⟨finished, delivered⟩ :=
      tellListeners_of_prompt prompt notice state (state.channels.get notice.topic).listeners
    rw [tell]
    split <;> rename_i stopped <;> rw [stopped] at finished delivered
    · rename_i after
      obtain ⟨ends, told, later, inTurn⟩ := ih after
      refine ⟨ends, _, (later.trans (congrArg (· ++ told) delivered)).trans (List.append_assoc ..), ?_⟩
      have first : ((state.channels.get notice.topic).listeners.map fun listener => (⟨listener, notice⟩ : Delivery L)).map
          Delivery.notice = List.replicate (state.channels.get notice.topic).listeners.length notice := by
        rw [List.map_map]
        exact List.map_const' ..
      rw [List.map_append, first]
      exact .cons _ inTurn
    · cases finished

/-- The step lemma: listeners neither wait nor call after a step either, and all that is told in it is told of the change
that is announced. -/
theorem step_of_prompt {state : State L} {task : Task L} (undisturbed : task.Undisturbed) (index : Nat)
    (outage : Outage) :
    (step service outage state task).2.Undisturbed ∧
      ∃ told, (step service outage state task).1.deliveries = state.deliveries ++ told ∧
        InTurn ((task.announcement? index).toList.flatMap (Commit.notices service.formula))
          (told.map Delivery.notice) := by
  have moved : Moved service state task _ _ := moved_step service outage
  obtain ⟨alone, quiet⟩ := undisturbed
  cases phase : task.phase with
  | fresh | queued | loading | loaded | saving =>
    have silent : task.announcement? index = none := by simp [Task.announcement?, phase]
    rw [silent]
    generalize (step service outage state task).1 = after, (step service outage state task).2 = next at moved
    cases moved with
    | blocked | answered | entered | resumed | loaded | queried | prepared | abandoned | saved =>
      exact ⟨⟨alone, by simp⟩, [], (List.append_nil _).symm, .nil⟩
    | announced earlier | told earlier | returned earlier | idle earlier => simp [phase] at earlier
  | saved old new =>
    cases request : task.call.request with
    | ask query =>
      simp only [step, phase, announce, Task.announcement?, request]
      exact ⟨⟨alone, by simp⟩, [], (List.append_nil _).symm, .nil⟩
    | change mutation =>
      obtain ⟨ends, told, delivered, inTurn⟩ :=
        tell_of_prompt prompt (unlock (remember state task.identity new) task.identity)
          (mutation.notices service.formula task.identity old new)
      have becomes := afterTelling_of_ended task (mutation.answer service.formula new) ends
      simp only [step, phase, announce, Task.announcement?, request]
      simp only [Task.identity] at becomes delivered inTurn
      rw [becomes, Option.toList_some, List.flatMap_singleton]
      exact ⟨⟨alone, by simp⟩, told, delivered, inTurn⟩
  | telling answer reaction rest => exact absurd phase (quiet answer reaction rest)
  | finished outcome =>
    have silent : task.announcement? index = none := by simp [Task.announcement?, phase]
    simp only [step, phase, alone, silent]
    exact ⟨⟨alone, quiet⟩, [], (List.append_nil _).symm, .nil⟩

end Prompt

section Runs

variable [DecidableEq L] {service : Service L} {world : World L}

theorem World.step_eq {index : Nat} {task : Task L} (present : world.tasks[index]? = some task) (outage : Outage) :
    world.step service index outage
      = ⟨(Service.step service outage world.state task).1,
          world.tasks.set index (Service.step service outage world.state task).2⟩ := by
  simp only [World.step, present]

section Prompt

variable (prompt : ∀ told listener notice, (service.react told listener notice).Prompt)

include prompt

theorem World.inTurn_step (undisturbed : ∀ task ∈ world.tasks, task.Undisturbed) (index : Nat) (outage : Outage) :
    (∀ task ∈ (world.step service index outage).tasks, task.Undisturbed) ∧
      ∃ told, (world.step service index outage).state.deliveries = world.state.deliveries ++ told ∧
        InTurn ((world.announcement? index).toList.flatMap (Commit.notices service.formula))
          (told.map Delivery.notice) := by
  cases present : world.tasks[index]? with
  | none =>
    rw [World.step_of_absent present, World.announcement?, present]
    exact ⟨undisturbed, [], (List.append_nil _).symm, .nil⟩
  | some task =>
    have own := undisturbed task (List.mem_of_getElem? present)
    obtain ⟨calm, told⟩ := step_of_prompt prompt own index outage
    rw [World.step_eq present, World.announcement?, present]
    exact ⟨forall_mem_set undisturbed calm, told⟩

/-- The run lemma: all that is told along a schedule is told of the changes that are announced, in turn. -/
theorem World.inTurn_run (undisturbed : ∀ task ∈ world.tasks, task.Undisturbed) (schedule : List (Nat × Outage)) :
    ∃ told, (world.run service schedule).state.deliveries = world.state.deliveries ++ told ∧
      InTurn ((world.announcements service schedule).flatMap (Commit.notices service.formula))
        (told.map Delivery.notice) := by
  induction schedule generalizing world with
  | nil => exact ⟨[], (List.append_nil _).symm, .nil⟩
  | cons turn rest ih =>
    obtain ⟨calm, first, delivered, told⟩ := World.inTurn_step prompt undisturbed turn.1 turn.2
    obtain ⟨later, ends, inTurn⟩ := ih calm
    refine ⟨first ++ later, ?_, ?_⟩
    · rw [← List.append_assoc, ← delivered]
      exact ends
    · rw [World.announcements, List.flatMap_append, List.map_append]
      exact told.append inTurn

/-- The run lemma of one listener: it is told of each change that is announced as often as it is registered. -/
theorem World.told_run {observer : L}
    (spares : ∀ told listener notice, (service.react told listener notice).Spares observer)
    {often : Topic → Nat} (registered : world.state.channels.registrations observer = often)
    (undisturbed : ∀ task ∈ world.tasks, task.Undisturbed) (schedule : List (Nat × Outage)) :
    Told observer world.state
      (copies often ((world.announcements service schedule).flatMap (Commit.notices service.formula)))
      (world.run service schedule).state [] := by
  induction schedule generalizing world with
  | nil => exact .refl _ []
  | cons turn rest ih =>
    have first : Told observer world.state
        (copies often ((world.announcement? turn.1).toList.flatMap (Commit.notices service.formula)))
        (world.step service turn.1 turn.2).state [] := by
      cases present : world.tasks[turn.1]? with
      | none =>
        rw [World.step_of_absent present, World.announcement?, present]
        exact .refl _ []
      | some task =>
        have own := undisturbed task (List.mem_of_getElem? present)
        obtain ⟨calm, -⟩ := step_of_prompt prompt own turn.1 turn.2
        obtain ⟨told, -⟩ := step_told spares registered own.spares turn.1 turn.2
        rw [own.pending, calm.pending, List.append_nil] at told
        rw [World.step_eq present, World.announcement?, present]
        exact told
    have calm := (World.inTurn_step prompt undisturbed turn.1 turn.2).1
    rw [World.announcements, List.flatMap_append, copies_append]
    exact (first.append _).trans (ih (first.registrations.trans registered) calm)

end Prompt

end Runs

section Main

variable [DecidableEq L] {service : Service L} {start : State L} {calls : List Call} {identity : Identity}

omit [DecidableEq L] in
theorem World.undisturbed_begin : ∀ task ∈ (World.begin start calls).tasks, task.Undisturbed := by
  intro task member
  obtain ⟨call, -, rfl⟩ := List.mem_map.1 member
  exact Task.undisturbed_fresh call

omit [DecidableEq L] in
theorem World.unannounced_begin : (World.begin start calls).Unannounced identity [] := by
  refine ⟨fun nonempty => absurd rfl nonempty, fun index task present => .inl ?_⟩
  obtain ⟨call, -, rfl⟩ := List.mem_map.1 (List.mem_of_getElem? present)
  cases request : call.request <;> simp [Task.due, Task.announcement?, Commit.about, request]

theorem World.mem_calls_of_commit (schedule : List (Nat × Outage))
    (spared : ∀ told listener notice, (service.react told listener notice).CallsOnly fun call =>
      call.identity = identity → ∃ query, call.request = .ask query) :
    ∀ commit ∈ Commit.about identity ((World.begin start calls).commits service schedule),
      calls[commit.task]? = some ⟨identity, .change commit.mutation⟩ := by
  intro commit member
  have outermost := World.depth_eq_zero start calls schedule spared commit member
  obtain ⟨inside, own⟩ := Commit.mem_about.1 member
  subst own
  have first := World.first_of_commit schedule commit inside outermost
  rw [← first]
  simp only [World.begin, List.getElem?_map, Option.map_map]
  exact Option.map_id_apply.symm

end Main

/-- An identity has 500 XP, and a listener asks for changes of levels. -/
def watchedStart : State Unit := { quietStart with channels := { levelUp := ⟨[()]⟩, levelDown := ⟨[()]⟩ } }

end Service

end Progression
