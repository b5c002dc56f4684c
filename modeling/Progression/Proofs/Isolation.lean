import Progression.Proofs.Settling

namespace Progression

variable {L : Type}

/-- What a reaction does, whether it fails in the end or not. -/
def Reaction.course : Reaction L → Reaction L
  | .finish => .finish
  | .fail => .finish
  | .change topic made rest => .change topic made rest.course
  | .wait rest => .wait rest.course
  | .call asked rest => .call asked fun outcome => (rest outcome).course

def Stop.course : Stop L → Stop L
  | .wait rest => .wait rest.course
  | .call asked rest => .call asked fun outcome => (rest outcome).course

/-- Whether a reaction leaves all registrations alone. -/
def Reaction.LeavesChannels : Reaction L → Prop
  | .finish => True
  | .fail => True
  | .change _ _ _ => False
  | .wait rest => rest.LeavesChannels
  | .call _ rest => ∀ outcome, (rest outcome).LeavesChannels

def Stop.LeavesChannels : Stop L → Prop
  | .wait rest => rest.LeavesChannels
  | .call _ rest => ∀ outcome, (rest outcome).LeavesChannels

/-- A task with what the listener does that it waits for, whether that fails in the end or not. -/
def Task.course (task : Task L) : Task L :=
  match task.phase with
  | .telling answer reaction rest => { task with phase := .telling answer reaction.course rest }
  | _ => task

/-- What was told about an identity. -/
def deliveriesAbout (identity : Identity) (deliveries : List (Delivery L)) : List (Delivery L) :=
  deliveries.filter fun delivery => delivery.notice.identity = identity

theorem deliveriesAbout_append {identity : Identity} {first second : List (Delivery L)} :
    deliveriesAbout identity (first ++ second) = deliveriesAbout identity first ++ deliveriesAbout identity second := by
  rw [deliveriesAbout, List.filter_append]
  rfl

namespace Service

/-- Alike states in which the same is told about the identity, and the same listeners are registered. -/
structure AlikeHeard (identity : Identity) (whole part : State L) : Prop extends Alike identity whole part where
  channels : part.channels = whole.channels
  deliveries : deliveriesAbout identity part.deliveries = deliveriesAbout identity whole.deliveries

/-- Where telling stops, whether the listener there fails in the end or not. -/
def courseOf {α : Type} (stopped : Option (Stop L × α)) : Option (Stop L × α) :=
  stopped.map fun stopped => (stopped.1.course, stopped.2)

section Stops

variable {α : Type}

theorem none_or_some_of_course {stop other : Option (Stop L)} (same : stop.map Stop.course = other.map Stop.course) :
    stop = none ∧ other = none ∨ ∃ there here, stop = some there ∧ other = some here ∧ there.course = here.course := by
  cases stop <;> cases other <;> simp_all

theorem none_or_some_of_courseOf {stopped other : Option (Stop L × α)} (same : courseOf stopped = courseOf other) :
    stopped = none ∧ other = none ∨ ∃ there here rest,
      stopped = some (there, rest) ∧ other = some (here, rest) ∧ there.course = here.course := by
  rcases stopped with _ | ⟨there, rest⟩ <;> rcases other with _ | ⟨here, part_rest⟩ <;> simp_all [courseOf]

theorem courseOf_some {there here : Stop L} (same : there.course = here.course) (rest : α) :
    courseOf (some (there, rest)) = courseOf (some (here, rest)) := congrArg (fun course => some (course, rest)) same

end Stops

section Heard

variable [DecidableEq L] {service : Service L} {identity : Identity} {whole part : State L}

omit [DecidableEq L] in
theorem AlikeHeard.deliver (alike : AlikeHeard identity whole part) (delivery : Delivery L) :
    AlikeHeard identity { whole with deliveries := whole.deliveries ++ [delivery] }
      { part with deliveries := part.deliveries ++ [delivery] } := by
  refine ⟨⟨alike.account, alike.store⟩, alike.channels, ?_⟩
  rw [deliveriesAbout_append, deliveriesAbout_append, alike.deliveries]

/-- A reaction does the same in both states, whether it fails in the end or not. -/
theorem AlikeHeard.runReaction (alike : AlikeHeard identity whole part) {reaction other : Reaction L}
    (same : reaction.course = other.course) :
    AlikeHeard identity (runReaction whole reaction).1 (runReaction part other).1 ∧
      (Service.runReaction whole reaction).2.map Stop.course = (Service.runReaction part other).2.map Stop.course := by
  induction reaction generalizing whole part other with
  | finish | fail =>
    cases other with
    | finish | fail => exact ⟨alike, rfl⟩
    | change | wait | call => cases same
  | change topic made rest ih =>
    cases other with
    | change other_topic other_made other_rest =>
      obtain ⟨rfl, rfl, later⟩ : topic = other_topic ∧ made = other_made ∧ rest.course = other_rest.course := by
        simpa [Reaction.course] using same
      have changed : AlikeHeard identity { whole with channels := whole.channels.change topic made }
          { part with channels := part.channels.change topic made } :=
        ⟨⟨alike.account, alike.store⟩, by rw [alike.channels], alike.deliveries⟩
      exact ih changed later
    | finish | fail | wait | call => cases same
  | wait rest =>
    cases other with
    | wait other_rest => exact ⟨alike, by simpa [Service.runReaction, Stop.course, Reaction.course] using same⟩
    | finish | fail | change | call => cases same
  | call call rest =>
    cases other with
    | call other_call other_rest =>
      exact ⟨alike, by simpa [Service.runReaction, Stop.course, Reaction.course] using same⟩
    | finish | fail | change | wait => cases same

variable (apart : ∀ told listener notice, notice.identity = identity →
  (service.react told listener notice).course = (service.react (deliveriesAbout identity told) listener notice).course)

include apart

theorem AlikeHeard.tellListeners (alike : AlikeHeard identity whole part) {notice : Notice}
    (about : notice.identity = identity) (listeners : List L) :
    AlikeHeard identity (tellListeners service notice whole listeners).1
        (Service.tellListeners service notice part listeners).1 ∧
      courseOf (Service.tellListeners service notice whole listeners).2
        = courseOf (Service.tellListeners service notice part listeners).2 := by
  induction listeners generalizing whole part with
  | nil => exact ⟨alike, rfl⟩
  | cons listener rest ih =>
    have same : (service.react whole.deliveries listener notice).course
        = (service.react part.deliveries listener notice).course := by
      rw [apart _ _ _ about, apart part.deliveries _ _ about, alike.deliveries]
    obtain ⟨reacted, stops⟩ := (alike.deliver ⟨listener, notice⟩).runReaction same
    rw [Service.tellListeners, Service.tellListeners]
    generalize Service.runReaction _ (service.react whole.deliveries listener notice) = first at reacted stops
    generalize Service.runReaction _ (service.react part.deliveries listener notice) = second at reacted stops
    obtain ⟨after, stop⟩ := first
    obtain ⟨also, other⟩ := second
    rcases none_or_some_of_course stops with ⟨rfl, rfl⟩ | ⟨there, here, rfl, rfl, course⟩
    · exact ih reacted
    · exact ⟨reacted, courseOf_some course rest⟩

theorem AlikeHeard.tell (alike : AlikeHeard identity whole part) {notices : List Notice}
    (about : ∀ notice ∈ notices, notice.identity = identity) :
    AlikeHeard identity (tell service whole notices).1 (Service.tell service part notices).1 ∧
      courseOf (Service.tell service whole notices).2 = courseOf (Service.tell service part notices).2 := by
  induction notices generalizing whole part with
  | nil => exact ⟨alike, rfl⟩
  | cons notice rest ih =>
    obtain ⟨told, stops⟩ := alike.tellListeners apart (about notice (List.mem_cons_self ..))
      (whole.channels.get notice.topic).listeners
    rw [Service.tell, Service.tell, alike.channels]
    generalize Service.tellListeners service notice whole _ = first at told stops
    generalize Service.tellListeners service notice part _ = second at told stops
    obtain ⟨after, stop⟩ := first
    obtain ⟨also, other⟩ := second
    rcases none_or_some_of_courseOf stops with ⟨rfl, rfl⟩ | ⟨there, here, listeners, rfl, rfl, course⟩
    · exact ih told fun notice member => about notice (List.mem_cons_of_mem _ member)
    · exact ⟨told, courseOf_some course _⟩

theorem AlikeHeard.goOn (alike : AlikeHeard identity whole part) {reaction other : Reaction L}
    (same : reaction.course = other.course) {telling : Telling L}
    (about : ∀ notice ∈ telling.notice :: telling.notices, notice.identity = identity) :
    AlikeHeard identity (goOn service whole reaction telling).1 (Service.goOn service part other telling).1 ∧
      courseOf (Service.goOn service whole reaction telling).2
        = courseOf (Service.goOn service part other telling).2 := by
  obtain ⟨reacted, stops⟩ := alike.runReaction same
  rw [Service.goOn, Service.goOn]
  generalize Service.runReaction whole reaction = first at reacted stops
  generalize Service.runReaction part other = second at reacted stops
  obtain ⟨after, stop⟩ := first
  obtain ⟨also, part_stop⟩ := second
  rcases none_or_some_of_course stops with ⟨rfl, rfl⟩ | ⟨there, here, rfl, rfl, course⟩
  · obtain ⟨told, halts⟩ := reacted.tellListeners apart (about telling.notice (List.mem_cons_self ..)) telling.listeners
    dsimp only
    generalize Service.tellListeners service telling.notice after telling.listeners = third at told halts
    generalize Service.tellListeners service telling.notice also telling.listeners = fourth at told halts
    obtain ⟨later, halt⟩ := third
    obtain ⟨part_later, part_halt⟩ := fourth
    rcases none_or_some_of_courseOf halts with ⟨rfl, rfl⟩ | ⟨there, here, listeners, rfl, rfl, course⟩
    · exact told.tell apart fun notice member => about notice (List.mem_cons_of_mem _ member)
    · exact ⟨told, courseOf_some course _⟩
  · exact ⟨reacted, courseOf_some course telling⟩

end Heard

/-- What a step leaves as it was: registrations, and what was told about an identity. -/
structure Aside (identity : Identity) (before after : State L) : Prop where
  channels : after.channels = before.channels
  deliveries : deliveriesAbout identity after.deliveries = deliveriesAbout identity before.deliveries

theorem Aside.refl {identity : Identity} (state : State L) : Aside identity state state := ⟨rfl, rfl⟩

theorem Aside.trans {identity : Identity} {first second third : State L} (left : Aside identity first second)
    (right : Aside identity second third) : Aside identity first third :=
  ⟨right.channels.trans left.channels, right.deliveries.trans left.deliveries⟩

/-- A task that keeps to its identity: its listeners make no calls, they are told of that identity only, and leave
registrations alone unless it is the one at hand. -/
structure KeepsTo (identity : Identity) (task : Task L) : Prop where
  mute : task.CallsOnly fun _ => False
  notices : ∀ answer reaction rest, task.phase = .telling answer reaction rest →
    ∀ notice ∈ rest.notice :: rest.notices, notice.identity = task.identity
  leaves : task.identity ≠ identity → ∀ answer reaction rest, task.phase = .telling answer reaction rest →
    reaction.LeavesChannels

section Apart

variable {service : Service L} {identity : Identity} {state after whole part : State L} {task other next : Task L}
  {answer : Answer}

theorem Moved.unheard (moved : Moved service state task after next) (opened : task.phase.Open) :
    after.channels = state.channels ∧ after.deliveries = state.deliveries ∧
      ∀ answer reaction rest, next.phase ≠ .telling answer reaction rest := by
  cases moved with
  | blocked | answered | entered | resumed | loaded | queried | prepared | abandoned | saved =>
    exact ⟨rfl, rfl, fun _ _ _ tells => nomatch tells⟩
  | announced earlier | told earlier | returned earlier | idle earlier => simp [earlier, Phase.Open] at opened

/-- Calls that stand the same up to how a listener ends are the same, or a listener of each waits. -/
theorem eq_or_telling_of_course (same : task.course = other.course) :
    (other = task ∧ ∀ answer reaction rest, task.phase ≠ .telling answer reaction rest) ∨
      ∃ answer reaction rest part_reaction, task.phase = .telling answer reaction rest ∧
        other = { task with phase := .telling answer part_reaction rest } ∧
          reaction.course = part_reaction.course := by
  obtain ⟨call, phase, waiting⟩ := task
  obtain ⟨other_call, other_phase, other_waiting⟩ := other
  cases phase <;> cases other_phase <;> simp_all [Task.course]

theorem afterTelling_phase {phase : Phase L} {told : State L × Option (Stop L × Telling L)} :
    afterTelling { task with phase } answer told = afterTelling task answer told := by
  rcases told with ⟨state, _ | ⟨_ | _, rest⟩⟩ <;> rfl

theorem afterTelling_course {told part_told : State L × Option (Stop L × Telling L)}
    (same : courseOf told.2 = courseOf part_told.2) (still : (afterTelling task answer told).2.waiting = []) :
    (afterTelling task answer told).2.course = (afterTelling task answer part_told).2.course := by
  rcases told with ⟨first, _ | ⟨reaction | ⟨call, resume⟩, rest⟩⟩ <;>
    rcases part_told with ⟨second, _ | ⟨part_reaction | ⟨part_call, part_resume⟩, part_rest⟩⟩ <;>
    simp_all [afterTelling, courseOf, Stop.course, Task.course]

theorem afterTelling_keepsTo {told : State L × Option (Stop L × Telling L)}
    (mute : (afterTelling task answer told).2.CallsOnly fun _ => False)
    (stops : ∀ stop rest, told.2 = some (stop, rest) → (task.identity ≠ identity → stop.LeavesChannels) ∧
      ∀ notice ∈ rest.notice :: rest.notices, notice.identity = task.identity) :
    KeepsTo identity (afterTelling task answer told).2 := by
  rcases told with ⟨state, _ | ⟨reaction | ⟨call, resume⟩, rest⟩⟩
  · exact ⟨mute, fun _ _ _ tells => (nomatch tells), fun _ _ _ _ tells => (nomatch tells)⟩
  · obtain ⟨leaves, notices⟩ := stops _ _ rfl
    refine ⟨mute, fun _ _ _ tells => ?_, fun foreign _ _ _ tells => ?_⟩
    · cases tells
      exact notices
    · cases tells
      exact leaves foreign
  · exact absurd (alone_of_mute mute) (List.cons_ne_nil _ _)

theorem runReaction_leaves [DecidableEq L] (state : State L) (reaction : Reaction L) (stop : Stop L)
    (leaves : reaction.LeavesChannels) (stopped : (runReaction state reaction).2 = some stop) : stop.LeavesChannels := by
  cases reaction with
  | finish | fail => cases stopped
  | change => exact leaves.elim
  | wait | call =>
    cases stopped
    exact leaves

theorem runReaction_of_leaves [DecidableEq L] {reaction : Reaction L} (leaves : reaction.LeavesChannels) :
    (runReaction state reaction).1 = state := by
  cases reaction with
  | finish | fail | wait | call => rfl
  | change => exact leaves.elim

variable [DecidableEq L] (mute : ∀ told listener notice, (service.react told listener notice).CallsOnly fun _ => False)
  (calm : ∀ told listener notice, notice.identity ≠ identity → (service.react told listener notice).LeavesChannels)

include calm

theorem react_aside {notice : Notice} (foreign : notice.identity ≠ identity) (state : State L) (listener : L) :
    Aside identity state (runReaction { state with deliveries := state.deliveries ++ [⟨listener, notice⟩] }
      (service.react state.deliveries listener notice)).1 := by
  rw [runReaction_of_leaves (calm _ _ _ foreign)]
  refine ⟨rfl, ?_⟩
  rw [deliveriesAbout_append]
  simp [deliveriesAbout, foreign]

/-- A step of a call about another identity leaves registrations, and what was told about an identity. -/
theorem KeepsTo.aside (keeps : KeepsTo identity task) (foreign : task.identity ≠ identity) (outage : Outage) :
    Aside identity state (step service outage state task).1 := by
  have moved : Moved service state task _ _ := moved_step service outage
  have alone := alone_of_mute keeps.mute
  rcases task.phase.open_or_saved_or_done with opened | ⟨old, new, saved⟩ | done
  · obtain ⟨channels, deliveries, -⟩ := moved.unheard opened
    exact ⟨channels, congrArg _ deliveries⟩
  · have remembered : Aside identity state (unlock (remember state task.call.identity new) task.call.identity) :=
      ⟨rfl, rfl⟩
    simp only [step, saved, announce]
    split
    · exact remembered
    · rename_i mutation changes
      rw [(afterTelling_continued _ _ _).1]
      refine remembered.trans (tell_keeps Aside.refl Aside.trans (fun notice member => react_aside calm ?_) _)
      exact Mutation.identity_of_mem_notices member ▸ foreign
  · cases phase : task.phase with
    | telling answer reaction rest =>
      simp only [step, phase]
      rw [(afterTelling_continued _ _ _).1]
      refine goOn_keeps Aside.refl Aside.trans state ?_ fun notice member => react_aside calm ?_
      · rw [runReaction_of_leaves (keeps.leaves foreign answer reaction rest phase)]
        exact .refl state
      · exact keeps.notices answer reaction rest phase notice member ▸ foreign
    | finished outcome =>
      simp only [step, phase, alone]
      exact .refl state
    | fresh | queued | loading | loaded | saving | saved => simp [phase, Phase.Done] at done

include mute

theorem KeepsTo.step (keeps : KeepsTo identity task) (outage : Outage) :
    KeepsTo identity (step service outage state task).2 := by
  have moved : Moved service state task _ _ := moved_step service outage
  have next_mute : (Service.step service outage state task).2.CallsOnly fun _ => False :=
    step_callsOnly service outage mute keeps.mute
  have stops (state : State L) (reaction : Reaction L) (stop : Stop L)
      (leaves : task.identity ≠ identity → reaction.LeavesChannels)
      (stopped : (runReaction state reaction).2 = some stop) : task.identity ≠ identity → stop.LeavesChannels :=
    fun foreign => runReaction_leaves state reaction stop (leaves foreign) stopped
  have reacts (notice : Notice) (own : notice.identity = task.identity) (told : List (Delivery L)) (listener : L) :
      task.identity ≠ identity → (service.react told listener notice).LeavesChannels :=
    fun foreign => calm told listener notice (own ▸ foreign)
  rcases task.phase.open_or_saved_or_done with opened | ⟨old, new, saved⟩ | done
  · obtain ⟨-, -, quiet⟩ := moved.unheard opened
    exact ⟨next_mute, fun _ _ _ tells => absurd tells (quiet _ _ _), fun _ _ _ _ tells => absurd tells (quiet _ _ _)⟩
  · simp only [Service.step, saved, announce] at next_mute ⊢
    split
    · exact ⟨⟨keeps.mute.calls, keeps.mute.resumed, by simp⟩, by simp, by simp⟩
    · rename_i mutation changes
      simp only [changes] at next_mute
      refine afterTelling_keepsTo next_mute fun stop rest stopped => ?_
      have own (notice : Notice) (member : notice ∈ mutation.notices service.formula task.call.identity old new) :
          notice.identity = task.identity := Mutation.identity_of_mem_notices member
      obtain ⟨leaves, left⟩ := tell_stops stops (fun notice member => reacts notice (own notice member)) stopped
      exact ⟨leaves, fun notice member => own notice (left member)⟩
  · cases phase : task.phase with
    | telling answer reaction rest =>
      simp only [Service.step, phase] at next_mute ⊢
      have own := keeps.notices answer reaction rest phase
      refine afterTelling_keepsTo next_mute fun stop later stopped => ?_
      obtain ⟨leaves, left⟩ := goOn_stops stops (fun foreign => keeps.leaves foreign answer reaction rest phase)
        (fun notice member => reacts notice (own notice member)) stopped
      exact ⟨leaves, fun notice member => own notice (left member)⟩
    | finished outcome =>
      simp only [Service.step, phase, alone_of_mute keeps.mute]
      exact keeps
    | fresh | queued | loading | loaded | saving | saved => simp [phase, Phase.Done] at done

variable (apart : ∀ told listener notice, notice.identity = identity →
  (service.react told listener notice).course = (service.react (deliveriesAbout identity told) listener notice).course)

include apart

theorem course_own (alike : AlikeHeard identity whole part) (keeps : KeepsTo identity task)
    (part_keeps : KeepsTo identity other) (own : task.identity = identity) (same : task.course = other.course)
    (outage : Outage) :
    AlikeHeard identity (Service.step service outage whole task).1 (Service.step service outage part other).1 ∧
      (Service.step service outage whole task).2.course = (Service.step service outage part other).2.course := by
  subst own
  have alone := alone_of_mute keeps.mute
  have still : (Service.step service outage whole task).2.waiting = [] :=
    alone_of_mute (step_callsOnly service outage mute keeps.mute)
  rcases eq_or_telling_of_course same with ⟨rfl, quiet⟩ | ⟨answer, reaction, rest, part_reaction, phase, rfl, course⟩
  · rcases other.phase.open_or_saved_or_done with opened | ⟨old, new, saved⟩ | done
    · obtain ⟨states, next⟩ : SameStep _ (Service.step service outage whole other)
        (Service.step service outage part other) := alike.toAlike.step opened outage
      have moved : Moved service whole other _ _ := moved_step service outage
      have part_moved : Moved service part other _ _ := moved_step service outage
      obtain ⟨channels, deliveries, -⟩ := moved.unheard opened
      obtain ⟨part_channels, part_deliveries, -⟩ := part_moved.unheard opened
      refine ⟨⟨states, ?_, ?_⟩, congrArg Task.course next.symm⟩
      · rw [channels, part_channels, alike.channels]
      · rw [deliveries, part_deliveries, alike.deliveries]
    · have remembered : AlikeHeard other.identity (unlock (remember whole other.identity new) other.identity)
          (unlock (remember part other.identity new) other.identity) :=
        ⟨(alike.toAlike.remember new).unlock, alike.channels, alike.deliveries⟩
      cases request : other.call.request with
      | ask query =>
        simp only [Service.step, saved, announce, request]
        exact ⟨remembered, trivial⟩
      | change mutation =>
        have about (notice : Notice) (member : notice ∈ mutation.notices service.formula other.identity old new) :
            notice.identity = other.identity := Mutation.identity_of_mem_notices member
        obtain ⟨told, stops⟩ := remembered.tell apart about
        simp only [Service.step, saved, announce, request] at still ⊢
        rw [(afterTelling_continued _ _ _).1, (afterTelling_continued _ _ _).1]
        exact ⟨told, afterTelling_course stops still⟩
    · cases phase : other.phase with
      | telling answer reaction rest => exact absurd phase (quiet answer reaction rest)
      | finished outcome =>
        simp only [Service.step, phase, alone]
        exact ⟨alike, trivial⟩
      | fresh | queued | loading | loaded | saving | saved => simp [phase, Phase.Done] at done
  · obtain ⟨told, stops⟩ := alike.goOn apart course (keeps.notices answer reaction rest phase)
    simp only [Service.step, phase] at still ⊢
    rw [afterTelling_phase, (afterTelling_continued _ _ _).1, (afterTelling_continued _ _ _).1]
    exact ⟨told, afterTelling_course stops still⟩

/-- What is told of an identity, a run and its projection do alike. -/
theorem projects_course : Projects service identity (AlikeHeard identity) (KeepsTo identity) Task.course where
  own := fun outage alike keeps part_keeps own same => course_own mute calm apart alike keeps part_keeps own same outage
  foreign := by
    intro whole part task outage alike keeps foreign
    have aside : Aside identity whole _ := keeps.aside calm foreign outage
    exact ⟨alike.foreign (moved_step service outage) foreign, alike.channels.trans aside.channels.symm,
      alike.deliveries.trans aside.deliveries.symm⟩
  announces := by
    intro task other same
    rcases eq_or_telling_of_course same with ⟨rfl, -⟩ | ⟨answer, reaction, rest, part_reaction, phase, rfl, -⟩
    · rfl
    · rw [Task.announced_of_quiet, Task.announced_of_quiet]
      · simp
      · simp [phase]
  stays := fun state _ outage keeps => ⟨keeps.step mute calm outage, call_step mute keeps.mute outage⟩

end Apart

/-- Calls take turns, whatever the store fails with, and listeners make none. What a service has in its books of an
identity, what it answers to the calls about it and what it announces of it are the same if all other calls are left
out. So is what listeners are told of it, if they do not heed what is told of others: reacting to a notice about the
identity, they do the same whatever others were told of, and reacting to one about another identity, they leave
registrations alone. No turn of another call touches the row of the identity or what is known of it. -/
theorem identities_apart [DecidableEq L] (service : Service L)
    (mute : ∀ told listener notice, (service.react told listener notice).CallsOnly fun _ => False) (start : State L)
    (identity : Identity) (calls : List Call) (schedule : List (Nat × Outage)) :
    let first := World.begin start calls
    let whole := first.run service schedule
    let tasks := whole.tasks.filter fun task => task.identity = identity
    let first_part := World.begin start (calls.filter fun call => call.identity = identity)
    let turns := turnsOf identity calls schedule
    let part := first_part.run service turns
    (part.state.account identity = whole.state.account identity ∧
      tasks.map Task.settled = part.tasks.map Task.settled ∧
      noticesAbout identity (first_part.notices service turns) = noticesAbout identity (first.notices service schedule)) ∧
    ((∀ told listener notice, notice.identity = identity → (service.react told listener notice).course
        = (service.react (deliveriesAbout identity told) listener notice).course) →
      (∀ told listener notice, notice.identity ≠ identity → (service.react told listener notice).LeavesChannels) →
        deliveriesAbout identity part.state.deliveries = deliveriesAbout identity whole.state.deliveries ∧
        part.state.channels = whole.state.channels ∧ tasks.map Task.course = part.tasks.map Task.course) ∧
    ∀ (index : Nat) (task : Task L) (outage : Outage), whole.tasks[index]? = some task → task.identity ≠ identity →
      (whole.step service index outage).state.account identity = whole.state.account identity := by
  intro first whole tasks first_part turns part
  have same : Alike identity start start := ⟨rfl, _, rfl⟩
  have fresh (call : Call) : ({ call } : Task L).CallsOnly fun _ => False :=
    ⟨fun _ inner => absurd inner List.not_mem_nil, fun _ waits => absurd waits List.not_mem_nil,
      fun _ _ _ tells => nomatch tells⟩
  refine ⟨?_, fun apart calm => ?_, fun index task outage present foreign => ?_⟩
  · obtain ⟨⟨states, -, -, -, views⟩, announced⟩ :=
      (projected_begin same fresh).run (projects_settled mute identity) schedule
    exact ⟨states.account, views, announced⟩
  · have keeps (call : Call) : KeepsTo identity ({ call } : Task L) :=
      ⟨fresh call, fun _ _ _ tells => (nomatch tells), fun _ _ _ _ tells => (nomatch tells)⟩
    have heard : AlikeHeard identity start start := ⟨same, rfl, rfl⟩
    obtain ⟨⟨states, -, -, -, views⟩, -⟩ :=
      (projected_begin heard keeps).run (projects_course mute calm apart) schedule
    exact ⟨states.deliveries, states.channels, views⟩
  · obtain ⟨after, next, moved, becomes⟩ := World.step_of_present service outage present
    rw [becomes]
    exact moved.frame (.inl foreign.symm)

/-- Two calls about one identity, with 500 XP, and one about another take turns. -/
theorem identities_apart_interleaved :
    let calls : List Call :=
      [⟨"a", .change (.addXp 130)⟩, ⟨"b", .change (.addXp 250)⟩, ⟨"a", .change (.removeXp 300)⟩]
    let schedule : List (Nat × Outage) := [0, 1, 2, 0, 1, 0, 1, 0, 0, 2, 1, 1, 2, 2].map fun turn => (turn, {})
    let whole := (World.begin watchedStart calls).run quiet schedule
    let part := (World.begin watchedStart (calls.filter fun call => call.identity = "a")).run quiet
      (turnsOf "a" calls schedule)
    part.state.stored "a" = whole.state.stored "a" ∧
      deliveriesAbout "a" part.state.deliveries = deliveriesAbout "a" whole.state.deliveries ∧
      heard () (deliveriesAbout "a" whole.state.deliveries) = [.rose ⟨"a", 6, 7⟩, .fell ⟨"a", 7, 4⟩] := by
  intro calls schedule whole part
  obtain ⟨⟨account, -⟩, told, -⟩ :=
    identities_apart quiet (fun _ _ _ => trivial) watchedStart "a" calls schedule
  obtain ⟨deliveries, -⟩ := told (fun _ _ _ _ => rfl) fun _ _ _ _ => trivial
  refine ⟨stored_of_account account, ?_, ?_⟩
  · rw [deliveries]
  · decide +kernel

end Service

end Progression
