import Progression.Proofs.Alone

/-!
The calls of one identity among those of others. A run is projected to the calls of the identity by leaving out the
turns of all others; a relation of states and a view of tasks that each turn keeps relate the run to its projection,
and what is announced of the identity is the same in both.
-/

namespace Progression

section Kept

variable {α : Type} {keep : α → Bool} {members : List α} {index : Nat} {member next : α}

theorem getElem?_filter_of_kept (present : members[index]? = some member) (kept : keep member = true) :
    (members.filter keep)[(members.take index).countP keep]? = some member := by
  induction members generalizing index with
  | nil => cases present
  | cons first rest ih =>
    cases index with
    | zero =>
      cases present
      simp [kept]
    | succ index =>
      have later := ih (by simpa using present)
      by_cases also : keep first = true
      · simpa [also, List.countP_cons] using later
      · simpa [also, List.countP_cons] using later

theorem filter_set_of_kept (present : members[index]? = some member) (kept : keep member = true)
    (still : keep next = true) :
    (members.set index next).filter keep = (members.filter keep).set ((members.take index).countP keep) next := by
  induction members generalizing index with
  | nil => cases present
  | cons first rest ih =>
    cases index with
    | zero =>
      cases present
      simp [kept, still]
    | succ index =>
      have later := ih (by simpa using present)
      by_cases also : keep first = true
      · simp [also, later]
      · simp [also, later]

theorem filter_set_of_dropped (present : members[index]? = some member) (dropped : keep member = false)
    (still : keep next = false) : (members.set index next).filter keep = members.filter keep := by
  induction members generalizing index with
  | nil => cases present
  | cons first rest ih =>
    cases index with
    | zero =>
      cases present
      simp [dropped, still]
    | succ index => simp [List.filter_cons, ih (by simpa using present)]

end Kept

variable {L : Type}

/-- The turn of a call about an identity, by its place among the calls about it. -/
def turnOf? (identity : Identity) (calls : List Call) (turn : Nat × Outage) : Option (Nat × Outage) :=
  calls[turn.1]?.bind fun call =>
    if call.identity = identity then some ((calls.take turn.1).countP fun call => call.identity = identity, turn.2)
    else none

/-- The turns of the calls about an identity. -/
def turnsOf (identity : Identity) (calls : List Call) (schedule : List (Nat × Outage)) : List (Nat × Outage) :=
  schedule.filterMap (turnOf? identity calls)

/-- The notices that a task announces in its next step. -/
def Task.announced (formula : Formula) (task : Task L) : List Notice :=
  (task.announcement? 0).toList.flatMap (Commit.notices formula)

section Announced

variable {formula : Formula} {task : Task L}

theorem Task.announced_eq (index : Nat) :
    (task.announcement? index).toList.flatMap (Commit.notices formula) = task.announced formula := by
  rw [announced, announcement?, announcement?]
  split <;> rfl

theorem Task.announced_of_quiet (quiet : ∀ old new, task.phase ≠ .saved old new) : task.announced formula = [] := by
  rw [announced, Service.announcement?_eq_none quiet]
  rfl

theorem Task.identity_of_mem_announced {notice : Notice} (member : notice ∈ task.announced formula) :
    notice.identity = task.identity := by
  obtain ⟨commit, announces, told⟩ := List.mem_flatMap.1 member
  obtain ⟨-, -, own, -⟩ := Service.announcement?_eq_some (Option.mem_toList.1 announces)
  rw [← own]
  exact Mutation.identity_of_mem_notices told

theorem Task.noticesAbout_announced {identity : Identity} (foreign : task.identity ≠ identity) :
    noticesAbout identity (task.announced formula) = [] := by
  rw [noticesAbout, List.filter_eq_nil_iff]
  intro notice member
  simpa [identity_of_mem_announced member] using foreign

end Announced

namespace Service

variable [DecidableEq L]

/-- The notices that are announced along a schedule. -/
def World.notices (service : Service L) (world : World L) (schedule : List (Nat × Outage)) : List Notice :=
  (world.announcements service schedule).flatMap (Commit.notices service.formula)

section Notices

variable {service : Service L} {world : World L}

theorem World.notices_append {schedule rest : List (Nat × Outage)} :
    world.notices service (schedule ++ rest)
      = world.notices service schedule ++ (world.run service schedule).notices service rest := by
  rw [notices, announcements_append, List.flatMap_append]
  rfl

theorem World.notices_singleton {turn : Nat × Outage} {task : Task L} (present : world.tasks[turn.1]? = some task) :
    world.notices service [turn] = task.announced service.formula := by
  rw [notices, announcements, announcements, List.append_nil, announcement?, present, Option.bind_some,
    Task.announced_eq]

theorem World.notices_of_absent {turn : Nat × Outage} (absent : world.tasks[turn.1]? = none) :
    world.notices service [turn] = [] := by
  rw [notices, announcements, announcements, List.append_nil, announcement?, absent]
  rfl

end Notices

/-- What each turn keeps of states and tasks of a run and of its projection to an identity. -/
structure Projects {β : Type} (service : Service L) (identity : Identity) (relates : State L → State L → Prop)
    (good : Task L → Prop) (view : Task L → β) : Prop where
  /-- A turn of a call about the identity is the same turn in both. -/
  own : ∀ {whole part : State L} {task other : Task L} (outage : Outage), relates whole part → good task → good other →
    task.identity = identity → view task = view other →
      relates (step service outage whole task).1 (step service outage part other).1 ∧
        view (step service outage whole task).2 = view (step service outage part other).2
  /-- A turn of another call is none in the projection. -/
  foreign : ∀ {whole part : State L} {task : Task L} (outage : Outage), relates whole part → good task →
    task.identity ≠ identity → relates (step service outage whole task).1 part
  announces : ∀ {task other : Task L}, view task = view other →
    task.announced service.formula = other.announced service.formula
  stays : ∀ (state : State L) {task : Task L} (outage : Outage), good task →
    good (step service outage state task).2 ∧ (step service outage state task).2.call = task.call

/-- A world of calls, and the world of those about an identity. -/
structure Projected {β : Type} (identity : Identity) (calls : List Call) (relates : State L → State L → Prop)
    (good : Task L → Prop) (view : Task L → β) (whole part : World L) : Prop where
  states : relates whole.state part.state
  whole_good : ∀ task ∈ whole.tasks, good task
  part_good : ∀ task ∈ part.tasks, good task
  calls : whole.tasks.map Task.call = calls
  tasks : (whole.tasks.filter fun task => task.identity = identity).map view = part.tasks.map view

section Turns

variable {identity : Identity} {tasks : List (Task L)} {turn : Nat × Outage} {task : Task L}

omit [DecidableEq L] in
theorem turnOf?_of_own (present : tasks[turn.1]? = some task) (own : task.identity = identity) :
    turnOf? identity (tasks.map Task.call) turn
      = some ((tasks.take turn.1).countP fun task => task.identity = identity, turn.2) := by
  have mine : task.call.identity = identity := own
  rw [turnOf?, List.getElem?_map, present, Option.map_some, Option.bind_some, if_pos mine, ← List.map_take,
    List.countP_map]
  rfl

omit [DecidableEq L] in
theorem turnOf?_of_foreign (present : tasks[turn.1]? = some task) (foreign : task.identity ≠ identity) :
    turnOf? identity (tasks.map Task.call) turn = none := by
  have others : task.call.identity ≠ identity := foreign
  rw [turnOf?, List.getElem?_map, present, Option.map_some, Option.bind_some, if_neg others]

end Turns

section Runs

variable {β : Type} {service : Service L} {identity : Identity} {relates : State L → State L → Prop}
  {good : Task L → Prop} {view : Task L → β} {calls : List Call} {whole part : World L}

/-- The step lemma. -/
theorem Projected.step (projects : Projects service identity relates good view)
    (projected : Projected identity calls relates good view whole part) (turn : Nat × Outage) :
    Projected identity calls relates good view (whole.step service turn.1 turn.2)
        (part.run service (turnOf? identity calls turn).toList) ∧
      noticesAbout identity (part.notices service (turnOf? identity calls turn).toList)
        = noticesAbout identity (whole.notices service [turn]) := by
  obtain ⟨states, whole_good, part_good, rfl, tasks⟩ := projected
  cases present : whole.tasks[turn.1]? with
  | none =>
    have nobody : turnOf? identity (whole.tasks.map Task.call) turn = none := by
      rw [turnOf?, List.getElem?_map, present]
      rfl
    rw [nobody, World.step_of_absent present, World.notices_of_absent present]
    exact ⟨⟨states, whole_good, part_good, rfl, tasks⟩, rfl⟩
  | some task =>
    have found : (whole.tasks.map Task.call)[turn.1]? = some task.call := by
      rw [List.getElem?_map, present]
      rfl
    have is_good := whole_good task (List.mem_of_getElem? present)
    obtain ⟨next_good, same_call⟩ := projects.stays whole.state turn.2 is_good
    have calls : (whole.tasks.set turn.1 (Service.step service turn.2 whole.state task).2).map Task.call
        = whole.tasks.map Task.call := by
      obtain ⟨inside, same⟩ := List.getElem?_eq_some_iff.1 found
      rw [List.map_set, same_call, ← same, List.set_getElem_self]
    have same_identity : (Service.step service turn.2 whole.state task).2.identity = task.identity :=
      congrArg Call.identity same_call
    by_cases own : task.identity = identity
    · obtain ⟨other, stands, same_view⟩ : ∃ other,
          part.tasks[(whole.tasks.take turn.1).countP fun task => task.identity = identity]? = some other ∧
            view task = view other := by
        have viewed := congrArg (·[(whole.tasks.take turn.1).countP fun task => task.identity = identity]?) tasks
        rw [List.getElem?_map, List.getElem?_map, getElem?_filter_of_kept present (by simpa using own)] at viewed
        obtain ⟨other, stands, same_view⟩ := Option.map_eq_some_iff.1 viewed.symm
        exact ⟨other, stands, same_view.symm⟩
      have other_good := part_good other (List.mem_of_getElem? stands)
      obtain ⟨still, views⟩ := projects.own turn.2 states is_good other_good own same_view
      rw [turnOf?_of_own present own, World.step_eq present, Option.toList_some, World.run_cons, World.step_eq stands,
        World.notices_singleton present, World.notices_singleton stands, projects.announces same_view]
      refine ⟨⟨still, forall_mem_set whole_good next_good,
        forall_mem_set part_good (projects.stays part.state turn.2 other_good).1, calls, ?_⟩, rfl⟩
      rw [filter_set_of_kept present (by simpa using own) (by simpa [same_identity] using own), List.map_set, tasks,
        views, ← List.map_set]
      rfl
    · rw [turnOf?_of_foreign present own, World.step_eq present, World.notices_singleton present,
        Task.noticesAbout_announced own]
      refine ⟨⟨projects.foreign turn.2 states is_good own, forall_mem_set whole_good next_good, part_good, calls, ?_⟩,
        rfl⟩
      rw [filter_set_of_dropped present (by simpa using own) (by simpa [same_identity] using own)]
      exact tasks

/-- The run lemma: a run and its projection stay related, and announce the same of the identity. -/
theorem Projected.run (projects : Projects service identity relates good view)
    (projected : Projected identity calls relates good view whole part) (schedule : List (Nat × Outage)) :
    Projected identity calls relates good view (whole.run service schedule)
        (part.run service (turnsOf identity calls schedule)) ∧
      noticesAbout identity (part.notices service (turnsOf identity calls schedule))
        = noticesAbout identity (whole.notices service schedule) := by
  induction schedule generalizing whole part with
  | nil => exact ⟨projected, rfl⟩
  | cons turn rest ih =>
    obtain ⟨stepped, announced⟩ := projected.step projects turn
    obtain ⟨later, told⟩ := ih stepped
    have turns : turnsOf identity calls (turn :: rest)
        = (turnOf? identity calls turn).toList ++ turnsOf identity calls rest := by
      rw [turnsOf, List.filterMap_cons]
      cases turnOf? identity calls turn <;> rfl
    have first : whole.notices service (turn :: rest)
        = whole.notices service [turn] ++ (whole.step service turn.1 turn.2).notices service rest := by
      rw [← List.singleton_append, World.notices_append]
      rfl
    rw [turns, World.run_append]
    refine ⟨later, ?_⟩
    rw [first, World.notices_append, noticesAbout_append, noticesAbout_append, announced, told]

omit [DecidableEq L] in
theorem projected_begin {start : State L} (states : relates start start) (fresh : ∀ call, good { call }) :
    Projected identity calls relates good view (World.begin start calls)
      (World.begin start (calls.filter fun call => call.identity = identity)) := by
  have all_good (calls : List Call) : ∀ task ∈ (World.begin start calls).tasks, good task := by
    intro task member
    obtain ⟨call, -, rfl⟩ := List.mem_map.1 member
    exact fresh call
  refine ⟨states, all_good calls, all_good _, ?_, ?_⟩
  · rw [World.begin, List.map_map]
    exact List.map_id calls
  · rw [World.begin, World.begin, List.filter_map]
    rfl

end Runs

end Service

end Progression
