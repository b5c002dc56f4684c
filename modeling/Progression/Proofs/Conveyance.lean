import Progression.Proofs.Unheard

namespace Progression

variable {L : Type}

/-- All of a state that listeners have to do with: the registrations, and what was told. -/
structure Desk (L : Type) where
  channels : Channels L
  deliveries : List (Delivery L)

/-- A notice that is taken up, and the registrations at that time. -/
structure Dispatch (L : Type) where
  notice : Notice
  channels : Channels L

/-- The listeners that are told in a dispatch. -/
def Dispatch.listeners (dispatch : Dispatch L) : List L := (dispatch.channels.get dispatch.notice.topic).listeners

def Dispatch.deliveries (dispatch : Dispatch L) : List (Delivery L) :=
  dispatch.listeners.map fun listener => ⟨listener, dispatch.notice⟩

/-- The notices of a call that was answered, by the XP before and after it. -/
def Call.notices (formula : Formula) (call : Call) (old new : Int) : Outcome → List Notice
  | .error _ => []
  | .ok _ =>
    match call.request with
    | .ask _ => []
    | .change mutation => mutation.notices formula call.identity old new

theorem Call.notices_ok {formula : Formula} {call : Call} {old new : Int} {answer : Answer} {mutation : Mutation}
    (changes : call.request = .change mutation) :
    call.notices formula old new (.ok answer) = mutation.notices formula call.identity old new := by
  simp only [Call.notices, changes]

theorem Reaction.CallsOnly.mono {allowed wider : Call → Prop} {reaction : Reaction L} (only : reaction.CallsOnly allowed)
    (wide : ∀ call, allowed call → wider call) : reaction.CallsOnly wider := by
  induction reaction with
  | finish | fail => trivial
  | change topic made rest ih => exact ih only
  | wait rest ih => exact ih only
  | call asked rest ih => exact ⟨wide asked only.1, fun outcome => ih outcome (only.2 outcome)⟩

variable [DecidableEq L]

/-- The registrations as a listener that makes no calls leaves them in the end. -/
def Reaction.settle : Reaction L → Channels L → Channels L
  | .finish, channels => channels
  | .fail, channels => channels
  | .change topic made rest, channels => rest.settle (channels.change topic made)
  | .wait rest, channels => rest.settle channels
  | .call _ _, channels => channels

namespace Desk

/-- Tell a listener of a notice, and let it come to its end. -/
def serve (service : Service L) (notice : Notice) (desk : Desk L) (listener : L) : Desk L :=
  ⟨(service.react desk.deliveries listener notice).settle desk.channels, desk.deliveries ++ [⟨listener, notice⟩]⟩

/-- Tell of a notice those that are registered for it now. -/
def convey (service : Service L) (desk : Desk L) (notice : Notice) : Desk L :=
  (desk.channels.get notice.topic).listeners.foldl (serve service notice) desk

def conveyAll (service : Service L) (desk : Desk L) (notices : List Notice) : Desk L := notices.foldl (convey service) desk

/-- The dispatches in which notices are told of one after another. -/
def dispatches (service : Service L) : Desk L → List Notice → List (Dispatch L)
  | _, [] => []
  | desk, notice :: rest => ⟨notice, desk.channels⟩ :: dispatches service (desk.convey service notice) rest

/-- What is left of a telling, once the listener that it waits for has come to its end. -/
def resume (service : Service L) (desk : Desk L) (reaction : Reaction L) (telling : Telling L) : Desk L :=
  (telling.listeners.foldl (serve service telling.notice) ⟨reaction.settle desk.channels, desk.deliveries⟩).conveyAll
    service telling.notices

section Conveyed

variable {service : Service L} {desk : Desk L} {notice : Notice} {notices : List Notice}

theorem conveyAll_append {later : List Notice} :
    desk.conveyAll service (notices ++ later) = (desk.conveyAll service notices).conveyAll service later :=
  List.foldl_append

theorem deliveries_foldl_serve (listeners : List L) :
    (listeners.foldl (serve service notice) desk).deliveries
      = desk.deliveries ++ listeners.map fun listener => ⟨listener, notice⟩ := by
  induction listeners generalizing desk with
  | nil => exact (List.append_nil _).symm
  | cons listener rest ih =>
    rw [List.foldl_cons, ih, serve, List.append_assoc]
    rfl

theorem notices_dispatches : (desk.dispatches service notices).map Dispatch.notice = notices := by
  induction notices generalizing desk with
  | nil => rfl
  | cons notice rest ih => exact congrArg (notice :: ·) ih

/-- What is told of notices is told in their dispatches, to each listener as often as it was registered when the dispatch
began. -/
theorem deliveries_conveyAll :
    (desk.conveyAll service notices).deliveries
      = desk.deliveries ++ (desk.dispatches service notices).flatMap Dispatch.deliveries := by
  induction notices generalizing desk with
  | nil => exact (List.append_nil _).symm
  | cons notice rest ih =>
    have first : (desk.convey service notice).deliveries
        = desk.deliveries ++ (Dispatch.mk notice desk.channels).deliveries := deliveries_foldl_serve _
    have later : (desk.conveyAll service (notice :: rest)).deliveries = _ := ih
    rw [later, first, dispatches, List.flatMap_cons, List.append_assoc]

end Conveyed

end Desk

theorem Reaction.registrations_settle {observer : L} {reaction : Reaction L} (spares : reaction.Spares observer)
    (channels : Channels L) : (reaction.settle channels).registrations observer = channels.registrations observer := by
  induction reaction generalizing channels with
  | finish | fail | call => rfl
  | change topic made rest ih => exact (ih spares.2 _).trans (Channels.registrations_change spares.1)
  | wait rest ih => exact ih spares channels

namespace Desk

variable {service : Service L} {observer : L}
  (spares : ∀ told listener notice, (service.react told listener notice).Spares observer)

include spares

theorem registrations_foldl_serve (notice : Notice) (listeners : List L) (desk : Desk L) :
    (listeners.foldl (serve service notice) desk).channels.registrations observer
      = desk.channels.registrations observer := by
  induction listeners generalizing desk with
  | nil => rfl
  | cons listener rest ih =>
    rw [List.foldl_cons, ih, serve]
    exact Reaction.registrations_settle (spares desk.deliveries listener notice) desk.channels

theorem registrations_conveyAll (notices : List Notice) (desk : Desk L) :
    (desk.conveyAll service notices).channels.registrations observer = desk.channels.registrations observer := by
  induction notices generalizing desk with
  | nil => rfl
  | cons notice rest ih => exact (ih _).trans (registrations_foldl_serve spares notice _ desk)

theorem registrations_of_mem_dispatches {notices : List Notice} {desk : Desk L} {dispatch : Dispatch L}
    (member : dispatch ∈ desk.dispatches service notices) :
    dispatch.channels.registrations observer = desk.channels.registrations observer := by
  induction notices generalizing desk with
  | nil => cases member
  | cons notice rest ih =>
    rcases List.mem_cons.1 member with rfl | later
    · rfl
    · exact (ih later).trans (registrations_foldl_serve spares notice _ desk)

end Desk

namespace Service

def State.desk (state : State L) : Desk L := ⟨state.channels, state.deliveries⟩

/-- The desk as a task leaves it that no other call waits for, once its listeners have come to their ends. -/
def comingDesk (service : Service L) (reached : State L × Task L) : Desk L :=
  match reached.2.phase with
  | .telling _ reaction rest => reached.1.desk.resume service reaction rest
  | _ => reached.1.desk

theorem comingDesk_of_untold {service : Service L} (state : State L) {task : Task L}
    (untold : ∀ answer reaction rest, task.phase ≠ .telling answer reaction rest) :
    service.comingDesk (state, task) = state.desk := by
  rw [comingDesk]
  split
  · rename_i tells
    exact absurd tells (untold _ _ _)
  · rfl

section Tellings

variable {service : Service L} {state : State L} {task : Task L} {answer : Answer}

/-- A listener that stops comes to the same as one that does not. -/
theorem comingDesk_reaction {telling : Telling L}
    (next : ∀ state, service.comingDesk (afterTelling task answer (goOn service state .finish telling))
      = state.desk.resume service .finish telling)
    {reaction : Reaction L} (silent : reaction.CallsOnly fun _ => False) (state : State L) :
    service.comingDesk (afterTelling task answer (goOn service state reaction telling))
      = state.desk.resume service reaction telling := by
  induction reaction generalizing state with
  | finish | fail => exact next state
  | change topic made rest ih => exact ih silent _
  | wait rest => rfl
  | call => exact silent.1.elim

variable (mute : ∀ told listener notice, (service.react told listener notice).CallsOnly fun _ => False)

include mute

/-- By induction on the listeners that are still to be told. -/
theorem comingDesk_listeners {notices : List Notice}
    (later : ∀ state, service.comingDesk (afterTelling task answer (tell service state notices))
      = state.desk.conveyAll service notices)
    (notice : Notice) (listeners : List L) (state : State L) :
    service.comingDesk (afterTelling task answer (goOn service state .finish ⟨notice, listeners, notices⟩))
      = state.desk.resume service .finish ⟨notice, listeners, notices⟩ := by
  induction listeners generalizing state with
  | nil => exact later state
  | cons listener more next =>
    rw [goOn_next]
    exact comingDesk_reaction next (mute state.deliveries listener notice) _

theorem comingDesk_tell (notices : List Notice) (state : State L) :
    service.comingDesk (afterTelling task answer (tell service state notices)) = state.desk.conveyAll service notices := by
  induction notices generalizing state with
  | nil => rfl
  | cons notice rest ih =>
    rw [tell_eq_goOn, comingDesk_listeners mute ih]
    rfl

theorem comingDesk_goOn {reaction : Reaction L} (silent : reaction.CallsOnly fun _ => False) (telling : Telling L) :
    service.comingDesk (afterTelling task answer (goOn service state reaction telling))
      = state.desk.resume service reaction telling :=
  comingDesk_reaction (comingDesk_listeners mute (comingDesk_tell mute telling.notices) telling.notice telling.listeners)
    silent state

/-- The step lemma: the desk that a task comes to changes when its change is announced, by the notices of it. -/
theorem comingDesk_step (own : task.CallsOnly fun _ => False) (outage : Outage) :
    service.comingDesk (step service outage state task)
      = (service.comingDesk (state, task)).conveyAll service
          ((task.announcement? 0).toList.flatMap (Commit.notices service.formula)) := by
  rcases task.phase.open_or_saved_or_done with opened | ⟨old, new, saved⟩ | done
  · have moved : Moved service state task _ _ := moved_step service outage
    obtain ⟨channels, deliveries, untold⟩ := moved.unheard opened
    have silent : task.announcement? 0 = none :=
      announcement?_eq_none fun _ _ saved => by simp [saved, Phase.Open] at opened
    have untold_yet (answer : Answer) (reaction : Reaction L) (rest : Telling L) :
        task.phase ≠ .telling answer reaction rest := fun tells => by simp [tells, Phase.Open] at opened
    rw [comingDesk_of_untold _ untold, comingDesk_of_untold state untold_yet, State.desk, channels, deliveries, silent]
    rfl
  · rw [comingDesk_of_untold state (by simp [saved])]
    cases request : task.call.request with
    | ask query =>
      simp only [step, saved, announce, request, Task.announcement?]
      rfl
    | change mutation =>
      simp only [step, saved, announce, request, Task.announcement?, Option.toList_some, List.flatMap_singleton]
      exact comingDesk_tell mute _ _
  · have silent : task.announcement? 0 = none := announcement?_eq_none done.unsaved
    rw [silent]
    cases phase : task.phase with
    | telling answer reaction rest =>
      simp only [step, phase, comingDesk_goOn mute (own.telling answer reaction rest phase)]
      simp only [comingDesk, phase]
      rfl
    | finished outcome =>
      simp only [step, phase, alone_of_mute own]
      rfl
    | fresh | queued | loading | loaded | saving | saved => simp [phase, Phase.Done] at done

/-- The run lemma. -/
theorem comingDesk_steps (own : task.CallsOnly fun _ => False) (outage : Outage) (count : Nat) :
    service.comingDesk (steps service outage count state task)
      = (service.comingDesk (state, task)).conveyAll service
          ((World.announcements service ⟨state, [task]⟩ (List.replicate count (0, outage))).flatMap
            (Commit.notices service.formula)) := by
  induction count generalizing state task with
  | zero => rfl
  | succ count ih =>
    have turn : World.step service ⟨state, [task]⟩ 0 outage
        = ⟨(step service outage state task).1, [(step service outage state task).2]⟩ := rfl
    have announced : World.announcement? ⟨state, [task]⟩ 0 = task.announcement? 0 := rfl
    rw [steps_step, ih (step_callsOnly service outage mute own), comingDesk_step mute own, List.replicate_succ,
      World.announcements, turn, announced, List.flatMap_append, Desk.conveyAll_append]

end Tellings

section Performance

variable {service : Service L} {state : State L} {call : Call} {outage : Outage} {limit : Nat} {outcome : Outcome}
  (mute : ∀ told listener notice, (service.react told listener notice).CallsOnly fun _ => False)
  (settled : state.Settled)

include mute

omit [DecidableEq L] in
theorem leavesAlone_of_mute (identity : Identity) (told : List (Delivery L)) (listener : L) (notice : Notice) :
    (service.react told listener notice).CallsOnly (Call.LeavesAlone identity) :=
  (mute told listener notice).mono fun _ called => called.elim

include settled

theorem announcements_of_over {schedule : List (Nat × Outage)} {task : Task L}
    (ends : ((World.begin state [call]).run service schedule).tasks = [task]) (completed : task.outcome? ≠ none) :
    (World.begin state [call]).announcements service schedule
      = Commit.about call.identity ((World.begin state [call]).commits service schedule) := by
  have announced (identity : Identity) : Commit.about identity ((World.begin state [call]).announcements service schedule)
      = Commit.about identity ((World.begin state [call]).commits service schedule) :=
    settled.announced_of_over (by rw [ends]; simpa using completed)
  have own : ∀ commit ∈ (World.begin state [call]).announcements service schedule, commit.identity = call.identity := by
    intro commit member
    have saved := Commit.mem_about.2 ⟨member, rfl⟩
    rw [announced] at saved
    rw [(World.own_of_alone (leavesAlone_of_mute mute commit.identity) state call schedule).1 commit saved]
  rw [← announced]
  exact (List.filter_eq_self.2 fun commit member => by simpa using own commit member).symm

variable (returns : (service.perform outage limit state call).2 = some outcome)

include returns

/-- A call that comes to its end has announced its one change if it was answered, and nothing if it failed. -/
theorem notices_announced :
    ((World.begin state [call]).announcements service (List.replicate limit (0, outage))).flatMap
        (Commit.notices service.formula)
      = call.notices service.formula (state.stored call.identity)
          ((service.perform outage limit state call).1.stored call.identity) outcome := by
  let schedule := List.replicate limit (0, outage)
  let first := World.begin state [call]
  let log := Commit.about call.identity (first.commits service schedule)
  obtain ⟨task, ran, ended⟩ : ∃ task, first.run service schedule
      = ⟨(service.perform outage limit state call).1, [task]⟩ ∧ task.outcome? = _ := perform_eq_run outage limit state call
  rw [returns] at ended
  have tasks : (first.run service schedule).tasks = [task] := by rw [ran]
  have announced : first.announcements service schedule = log :=
    announcements_of_over mute settled tasks (by simp [ended])
  obtain ⟨own, outermost⟩ : (∀ commit ∈ log, call = ⟨call.identity, .change commit.mutation⟩) ∧
      Commit.outermost 0 log = log := World.own_of_alone (leavesAlone_of_mute mute call.identity) state call schedule
  have consistent : Consistent service first := settled.consistent [call]
  obtain ⟨chained, ends⟩ : Commit.Chained service.formula (state.stored call.identity) log ∧
      (first.run service schedule).state.stored call.identity = Commit.last (state.stored call.identity) log :=
    consistent.chained call.identity schedule
  rw [ran] at ends
  rw [announced]
  cases request : call.request with
  | ask query =>
    have nothing : log = [] := by
      refine List.eq_nil_iff_forall_not_mem.2 fun commit member => ?_
      cases request.symm.trans (congrArg Call.request (own commit member))
    rw [nothing]
    cases outcome with
    | error => rfl
    | ok => simp [Call.notices, request]
  | change mutation =>
    have present : (first.run service schedule).tasks[0]? = some task := by rw [tasks, List.getElem?_cons_zero]
    have accounts := Commit.accounts_about (World.commits_of_outcome rfl request present ended)
    cases outcome with
    | error =>
      have nothing : log = [] := outermost.symm.trans accounts
      rw [nothing]
      rfl
    | ok answer =>
      obtain ⟨old, new, only, -⟩ := accounts
      have saved : log = [⟨0, 0, call.identity, mutation, old, new⟩] := outermost.symm.trans only
      rw [saved] at chained ends
      have started : old = state.stored call.identity := chained.1
      have stored : (service.perform outage limit state call).1.stored call.identity = new := ends
      rw [saved, stored, ← started, Call.notices_ok request, List.flatMap_singleton]
      rfl

theorem desk_perform :
    (service.perform outage limit state call).1.desk
      = state.desk.conveyAll service (call.notices service.formula (state.stored call.identity)
          ((service.perform outage limit state call).1.stored call.identity) outcome) := by
  have ended : (steps service outage limit state { call }).2.outcome? = some outcome := returns
  obtain ⟨finished, -⟩ := Task.outcome?_eq_some.1 ended
  have came : service.comingDesk (steps service outage limit state { call })
      = (service.perform outage limit state call).1.desk := comingDesk_of_untold _ (by simp [finished])
  have fresh : service.comingDesk (state, { call }) = state.desk := rfl
  rw [← came, comingDesk_steps mute (callsOnly_fresh _ call), fresh, ← notices_announced mute settled returns]
  rfl

end Performance

end Service

end Progression
