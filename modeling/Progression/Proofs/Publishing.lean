import Progression.Proofs.Conveyance
import Progression.Proofs.Messages

namespace Progression

variable {L M : Type}

/-- What is done with a service from outside. -/
inductive Deed (L : Type) where
  | perform (operation : Operation)
  | change (topic : Topic) (made : Change L)
  | attach (broadcaster : L)
  | detach (broadcaster : L)

/-- What the performance of a call came to: its outcome, and the books after it. -/
structure Report where
  outcome : Option Outcome
  books : Service.State Empty

namespace Deed

def operation? : Deed L → Option Operation
  | .perform operation => some operation
  | _ => none

/-- What is asked of a service, and what the store fails with meanwhile. -/
def request? (deed : Deed L) : Option (Call × Outage) :=
  deed.operation?.map fun operation => (operation.call, operation.outage)

/-- How often a listener is registered for a topic after a deed, by how often it was before, if nobody else changes its
registrations. What is not registered cannot be taken back. -/
def tally [DecidableEq L] (observer : L) (topic : Topic) (count : Nat) : Deed L → Nat
  | .perform _ => count
  | .change asked (.register listener) => if asked = topic ∧ listener = observer then count + 1 else count
  | .change asked (.unregister listener) => if asked = topic ∧ listener = observer then count - 1 else count
  | .attach broadcaster =>
    if (topic = .levelUp ∨ topic = .levelDown) ∧ broadcaster = observer then count + 1 else count
  | .detach broadcaster =>
    if (topic = .levelUp ∨ topic = .levelDown) ∧ broadcaster = observer then count - 1 else count

end Deed

/-- The attempts of a broadcaster to publish in a dispatch: one for each of its registrations when the dispatch begins. -/
def Dispatch.attempts [DecidableEq L] (broadcaster : L) (dispatch : Dispatch L) : List Publication :=
  match dispatch.notice with
  | .rose change =>
    List.replicate (dispatch.channels.registrations broadcaster .levelUp) ⟨"pubsub:level_up", change.message⟩
  | .fell change =>
    List.replicate (dispatch.channels.registrations broadcaster .levelDown) ⟨"pubsub:level_down", change.message⟩
  | .gained _ | .lost _ => []

section Attempts

variable [DecidableEq L] {broadcaster : L}

theorem Broadcaster.attempts_append {first second : List (Delivery L)} :
    attempts broadcaster (first ++ second) = attempts broadcaster first ++ attempts broadcaster second :=
  List.filterMap_append

/-- A broadcaster that is told of a notice a number of times attempts as often to publish it. -/
theorem Broadcaster.attempts_map (notice : Notice) (listeners : List L) :
    attempts broadcaster (listeners.map fun listener => ⟨listener, notice⟩)
      = (Publication.ofNotice? notice).toList.flatMap (List.replicate (listeners.count broadcaster)) := by
  induction listeners with
  | nil => cases Publication.ofNotice? notice <;> rfl
  | cons listener rest ih =>
    rw [List.map_cons, attempts, List.filterMap_cons, ← attempts, ih]
    by_cases own : listener = broadcaster
    · cases published : Publication.ofNotice? notice <;> simp [own, List.replicate_succ]
    · simp [own]

theorem Dispatch.attempts_deliveries (dispatch : Dispatch L) :
    Broadcaster.attempts broadcaster dispatch.deliveries = dispatch.attempts broadcaster := by
  obtain ⟨notice, channels⟩ := dispatch
  rw [Dispatch.deliveries, Broadcaster.attempts_map]
  cases notice with
  | rose | fell =>
    rw [Publication.ofNotice?, Publication.payloadOf_eq]
    exact List.append_nil _
  | gained | lost => rfl

theorem Dispatch.read?_of_mem_attempts {dispatch : Dispatch L} {change : LevelChange}
    (tells : dispatch.notice = .rose change ∨ dispatch.notice = .fell change) (legible : change.Legible)
    {publication : Publication} (member : publication ∈ dispatch.attempts broadcaster) :
    Json.read? publication.payload.toList = some (.map
      [("identity", .text change.identity), ("old_level", .int change.old), ("new_level", .int change.new)]) := by
  rcases tells with rose | fell
  · rw [attempts, rose] at member
    rw [List.eq_of_mem_replicate member]
    exact LevelChange.read?_message legible
  · rw [attempts, fell] at member
    rw [List.eq_of_mem_replicate member]
    exact LevelChange.read?_message legible

theorem Broadcaster.attempts_flatMap (dispatches : List (Dispatch L)) :
    attempts broadcaster (dispatches.flatMap Dispatch.deliveries)
      = dispatches.flatMap (Dispatch.attempts broadcaster) := by
  induction dispatches with
  | nil => rfl
  | cons dispatch rest ih =>
    rw [List.flatMap_cons, attempts_append, ih, Dispatch.attempts_deliveries]
    rfl

theorem Channels.registrations_change_eq {channels : Channels L} {observer : L} {topic asked : Topic} {made : Change L} :
    (channels.change asked made).registrations observer topic
      = (Deed.change asked made).tally observer topic (channels.registrations observer topic) := by
  by_cases own : made.listener = observer
  · by_cases same : asked = topic
    · subst same
      cases made with
      | register listener =>
        cases own
        simp [registrations, Channels.change, Channel.change, Channel.register, Deed.tally, Change.listener]
      | unregister listener =>
        cases own
        simp [registrations, Channels.change, Channel.change, Channel.unregister, Deed.tally, Change.listener]
    · cases made <;> simp [registrations, Channels.change, Deed.tally, same]
  · rw [registrations_change own]
    cases made with
    | register | unregister => simp_all [Deed.tally, Change.listener]

theorem Channels.registrations_attach {channels : Channels L} {observer : L} {topic : Topic} :
    (Broadcaster.attach broadcaster channels).registrations observer topic
      = (Deed.attach broadcaster).tally observer topic (channels.registrations observer topic) := by
  rw [Broadcaster.attach, registrations_change_eq, registrations_change_eq]
  cases topic <;> simp [Deed.tally]

theorem Channels.registrations_detach {channels : Channels L} {observer : L} {topic : Topic} :
    (Broadcaster.detach broadcaster channels).registrations observer topic
      = (Deed.detach broadcaster).tally observer topic (channels.registrations observer topic) := by
  rw [Broadcaster.detach, registrations_change_eq, registrations_change_eq]
  cases topic <;> simp [Deed.tally]

end Attempts

namespace Service

section Deeds

variable [DecidableEq L]

/-- Do one thing with a service. -/
def act (service : Service L) (state : State L) : Deed L → State L
  | .perform operation => (operation.perform service state).1
  | .change topic made => { state with channels := state.channels.change topic made }
  | .attach broadcaster => { state with channels := Broadcaster.attach broadcaster state.channels }
  | .detach broadcaster => { state with channels := Broadcaster.detach broadcaster state.channels }

def actAll (service : Service L) (state : State L) (deeds : List (Deed L)) : State L := deeds.foldl service.act state

/-- What there is to say of each call that is performed, in order. -/
def collect {α : Type} (service : Service L) (say : State L → Operation → List α) : State L → List (Deed L) → List α
  | _, [] => []
  | state, deed :: rest => deed.operation?.toList.flatMap (say state) ++ service.collect say (service.act state deed) rest

def report (service : Service L) (state : State L) (operation : Operation) : Report :=
  ⟨(operation.perform service state).2, (operation.perform service state).1.unheard⟩

/-- What calls come to. -/
def reports (service : Service L) : State L → List (Deed L) → List Report :=
  service.collect fun state operation => [service.report state operation]

/-- The notices that a call comes to if it is performed. -/
def noticesOf (service : Service L) (state : State L) (operation : Operation) : List Notice :=
  (operation.perform service state).2.elim [] (operation.call.notices service.formula
    (state.stored operation.call.identity) ((operation.perform service state).1.stored operation.call.identity))

/-- The dispatches that calls come to. -/
def dispatches (service : Service L) : State L → List (Deed L) → List (Dispatch L) :=
  service.collect fun state operation => state.desk.dispatches service (service.noticesOf state operation)

end Deeds

section Runs

variable [DecidableEq L] {service : Service L} {state : State L} {deeds : List (Deed L)}
  (mute : ∀ told listener notice, (service.react told listener notice).CallsOnly fun _ => False)

/-- Whether there is time enough for all calls. -/
def Completed (service : Service L) (state : State L) (deeds : List (Deed L)) : Prop :=
  ∀ report ∈ service.reports state deeds, report.outcome ≠ none

theorem completed_cons {deed : Deed L} {rest : List (Deed L)} :
    service.Completed state (deed :: rest) ↔
      (∀ operation, deed.operation? = some operation → (operation.perform service state).2 ≠ none) ∧
        service.Completed (service.act state deed) rest := by
  rw [Completed, reports, collect, List.forall_mem_append]
  refine and_congr_left fun _ => ?_
  cases deed.operation? with
  | none => simp
  | some operation => simp [report]

theorem State.Settled.act (settled : state.Settled) {deed : Deed L}
    (completed : ∀ operation, deed.operation? = some operation → (operation.perform service state).2 ≠ none) :
    (service.act state deed).Settled := by
  cases deed with
  | perform operation => exact settled.perform (completed operation rfl)
  | change | attach | detach => exact ⟨settled.free, settled.agrees⟩

theorem State.Settled.actAll (settled : state.Settled) (completed : service.Completed state deeds) :
    (service.actAll state deeds).Settled := by
  induction deeds generalizing state with
  | nil => exact settled
  | cons deed rest ih =>
    obtain ⟨first, later⟩ := completed_cons.1 completed
    exact ih (settled.act first) later

/-- What is asked of a service, with time enough for it if nobody listens. -/
def asking (requests : List (Call × Outage)) : List (Deed Empty) :=
  requests.map fun request => .perform ⟨request.1, request.2, 5⟩

include mute

/-- What calls come to hangs on nothing but what is asked. -/
theorem reports_unheard (settled : state.Settled) (completed : service.Completed state deeds) :
    let asked := asking (deeds.filterMap Deed.request?)
    service.reports state deeds = service.unheard.reports state.unheard asked ∧
      (service.actAll state deeds).unheard = service.unheard.actAll state.unheard asked := by
  induction deeds generalizing state with
  | nil => exact ⟨rfl, rfl⟩
  | cons deed rest ih =>
    obtain ⟨first, later⟩ := completed_cons.1 completed
    obtain ⟨reported, ends⟩ := ih (settled.act first) later
    cases deed with
    | perform operation =>
      obtain ⟨outcome, returns⟩ := Option.ne_none_iff_exists'.1 (first operation rfl)
      have same : service.unheard.perform operation.outage 5 state.unheard operation.call
          = ((operation.perform service state).1.unheard, some outcome) :=
        perform_unheard mute (settled.free ▸ List.not_mem_nil) returns
      let quick : Operation := ⟨operation.call, operation.outage, 5⟩
      have told : service.report state operation = service.unheard.report state.unheard quick := by
        simp only [report, quick, Operation.perform, same]
        exact congrArg (Report.mk · _) returns
      have acted : (service.act state (.perform operation)).unheard = service.unheard.act state.unheard (.perform quick) :=
        (congrArg Prod.fst same).symm
      rw [acted] at reported ends
      exact ⟨congrArg₂ List.cons told reported, ends⟩
    | change | attach | detach => exact ⟨reported, ends⟩

theorem desk_operation (settled : state.Settled) {operation : Operation}
    (completed : (operation.perform service state).2 ≠ none) :
    (operation.perform service state).1.desk = state.desk.conveyAll service (service.noticesOf state operation) := by
  obtain ⟨outcome, returns⟩ := Option.ne_none_iff_exists'.1 completed
  rw [noticesOf, returns]
  exact desk_perform mute settled returns

theorem attempts_act (settled : state.Settled) {deed : Deed L}
    (completed : ∀ operation, deed.operation? = some operation → (operation.perform service state).2 ≠ none)
    (broadcaster : L) :
    Broadcaster.attempts broadcaster (service.act state deed).deliveries
      = Broadcaster.attempts broadcaster state.deliveries
        ++ (service.dispatches state [deed]).flatMap (Dispatch.attempts broadcaster) := by
  cases deed with
  | change | attach | detach => exact (List.append_nil _).symm
  | perform operation =>
    have told : (operation.perform service state).1.deliveries = state.deliveries
        ++ (state.desk.dispatches service (service.noticesOf state operation)).flatMap Dispatch.deliveries := by
      have desk := desk_operation mute settled (completed operation rfl)
      exact (congrArg Desk.deliveries desk).trans Desk.deliveries_conveyAll
    have one : service.dispatches state [.perform operation]
        = state.desk.dispatches service (service.noticesOf state operation) := by
      simp [dispatches, collect, Deed.operation?]
    rw [one, ← Broadcaster.attempts_flatMap, ← Broadcaster.attempts_append, ← told]
    rfl

/-- The run lemma of a broadcaster: it attempts to publish what there is to publish of each dispatch, in order. -/
theorem attempts_actAll (settled : state.Settled) (completed : service.Completed state deeds) (broadcaster : L) :
    Broadcaster.attempts broadcaster (service.actAll state deeds).deliveries
      = Broadcaster.attempts broadcaster state.deliveries
        ++ (service.dispatches state deeds).flatMap (Dispatch.attempts broadcaster) := by
  induction deeds generalizing state with
  | nil => exact (List.append_nil _).symm
  | cons deed rest ih =>
    obtain ⟨first, later⟩ := completed_cons.1 completed
    have ends : Broadcaster.attempts broadcaster (service.actAll state (deed :: rest)).deliveries = _ :=
      ih (settled.act first) later
    have parts : service.dispatches state (deed :: rest)
        = service.dispatches state [deed] ++ service.dispatches (service.act state deed) rest := by
      simp [dispatches, collect]
    rw [ends, attempts_act mute settled first, parts, List.flatMap_append, List.append_assoc]

/-- The run lemma of registrations. -/
theorem registrations_actAll {observer : L}
    (spares : ∀ told listener notice, (service.react told listener notice).Spares observer) (settled : state.Settled)
    (completed : service.Completed state deeds) (topic : Topic) :
    (service.actAll state deeds).channels.registrations observer topic
      = deeds.foldl (Deed.tally observer topic) (state.channels.registrations observer topic) := by
  induction deeds generalizing state with
  | nil => rfl
  | cons deed rest ih =>
    obtain ⟨first, later⟩ := completed_cons.1 completed
    have counted : (service.act state deed).channels.registrations observer topic
        = deed.tally observer topic (state.channels.registrations observer topic) := by
      cases deed with
      | change asked made => exact Channels.registrations_change_eq
      | attach broadcaster => exact Channels.registrations_attach
      | detach broadcaster => exact Channels.registrations_detach
      | perform operation =>
        have desk := desk_operation mute settled (first operation rfl)
        have kept := Desk.registrations_conveyAll spares (service.noticesOf state operation) state.desk
        rw [← desk] at kept
        exact congrFun kept topic
    rw [List.foldl_cons, ← counted]
    exact ih (settled.act first) later

end Runs

/-- Who listens to a noisy service. -/
inductive Ear where
  | feed
  | grumbler
  | leaver
  deriving DecidableEq

/-- A feed waits for each attempt to publish, another listener waits and fails, and a third takes back a registration of
the feed for falling levels. -/
def noisy : Service Ear where
  formula := quiet.formula
  ranks := quiet.ranks
  react
    | _, .feed, _ => .wait .finish
    | _, .grumbler, _ => .wait .fail
    | _, .leaver, _ => .change .levelDown (.unregister .feed) .finish

end Service

end Progression
