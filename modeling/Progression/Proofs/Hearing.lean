import Progression.Proofs.Commits

namespace Progression

variable {L : Type}

/-- Whose registration is changed. -/
def Change.listener : Change L → L
  | .register listener | .unregister listener => listener

/-- Whether a reaction leaves the registrations of a listener alone. -/
def Reaction.Spares (observer : L) : Reaction L → Prop
  | .finish => True
  | .fail => True
  | .change _ made rest => made.listener ≠ observer ∧ rest.Spares observer
  | .wait rest => rest.Spares observer
  | .call _ rest => ∀ outcome, (rest outcome).Spares observer

def Stop.Spares (observer : L) : Stop L → Prop
  | .wait rest => rest.Spares observer
  | .call _ rest => ∀ outcome, (rest outcome).Spares observer

/-- Whether the listeners that a task has still to go on with leave the registrations of a listener alone. -/
structure Task.Spares (observer : L) (task : Task L) : Prop where
  resumed : ∀ outer ∈ task.waiting, ∀ outcome, (outer.resume outcome).Spares observer
  telling : ∀ answer reaction rest, task.phase = .telling answer reaction rest → reaction.Spares observer

/-- Notices, each as often as its topic says. -/
def copies (often : Topic → Nat) (notices : List Notice) : List Notice :=
  notices.flatMap fun notice => List.replicate (often notice.topic) notice

@[simp] theorem copies_nil {often : Topic → Nat} : copies often [] = [] := rfl

theorem copies_append {often : Topic → Nat} {first second : List Notice} :
    copies often (first ++ second) = copies often first ++ copies often second := List.flatMap_append

/-- The notices of a saved change. -/
def Commit.notices (formula : Formula) (commit : Commit) : List Notice :=
  commit.mutation.notices formula commit.identity commit.old commit.new

/-- The saved change that a task announces in its next step, if there is one. -/
def Task.announcement? (index : Nat) (task : Task L) : Option Commit :=
  match task.call.request, task.phase with
  | .change mutation, .saved old new => some ⟨index, task.waiting.length, task.identity, mutation, old, new⟩
  | _, _ => none

variable [DecidableEq L]

/-- How often a listener is registered for a topic. -/
def Channels.registrations (channels : Channels L) (observer : L) (topic : Topic) : Nat :=
  (channels.get topic).listeners.count observer

theorem Channels.registrations_change {channels : Channels L} {observer : L} {topic : Topic} {change : Change L}
    (other : change.listener ≠ observer) :
    (channels.change topic change).registrations observer = channels.registrations observer := by
  funext asked
  simp only [registrations, Channels.change, get_set]
  split
  · rename_i same
    subst same
    cases change with
    | register listener =>
      have absent : [listener].count observer = 0 := by
        rw [List.count_eq_zero, List.mem_singleton]
        exact Ne.symm other
      simp only [Channel.change, Channel.register, List.count_append, absent, Nat.add_zero]
    | unregister listener =>
      simp only [Channel.change, Channel.unregister]
      exact List.count_erase_of_ne (Ne.symm other)
  · rfl

/-- The notices that a listener was told of. -/
def heard (observer : L) (deliveries : List (Delivery L)) : List Notice :=
  (deliveries.filter fun delivery => delivery.listener = observer).map Delivery.notice

theorem heard_append {observer : L} {first second : List (Delivery L)} :
    heard observer (first ++ second) = heard observer first ++ heard observer second := by
  rw [heard, List.filter_append, List.map_append]
  rfl

theorem heard_singleton {observer listener : L} {notice : Notice} :
    heard observer [⟨listener, notice⟩] = List.replicate ([listener].count observer) notice := by
  by_cases same : listener = observer
  · simp [heard, same]
  · simp [heard, same]

/-- What a listener is still to be told of when a telling goes on. -/
def Telling.pending (observer : L) (often : Topic → Nat) (telling : Telling L) : List Notice :=
  List.replicate (telling.listeners.count observer) telling.notice ++ copies often telling.notices

/-- What a listener is still to be told of by a task. -/
def Task.pending (observer : L) (often : Topic → Nat) (task : Task L) : List Notice :=
  (match task.phase with
    | .telling _ _ rest => rest.pending observer often
    | _ => [])
    ++ task.waiting.flatMap fun outer => outer.rest.pending observer often

namespace Service

/-- What happened to a listener between two states: its registrations stay as they were, and what it was told, with
what it is still to be told of, stays the same. -/
structure Told (observer : L) (before : State L) (due : List Notice) (after : State L) (pending : List Notice) :
    Prop where
  registrations : after.channels.registrations observer = before.channels.registrations observer
  heard : heard observer after.deliveries ++ pending = heard observer before.deliveries ++ due

section Told

variable {observer : L} {first second third : State L} {due pending later : List Notice}

theorem Told.refl (state : State L) (due : List Notice) : Told observer state due state due := ⟨rfl, rfl⟩

theorem Told.trans (left : Told observer first due second pending) (right : Told observer second pending third later) :
    Told observer first due third later :=
  ⟨right.registrations.trans left.registrations, right.heard.trans left.heard⟩

theorem Told.append (told : Told observer first due second pending) (rest : List Notice) :
    Told observer first (due ++ rest) second (pending ++ rest) :=
  ⟨told.registrations, by rw [← List.append_assoc, told.heard, List.append_assoc]⟩

end Told

section Telling

variable {service : Service L} {observer : L} {state : State L}

theorem deliveries_runReaction (state : State L) (reaction : Reaction L) :
    (runReaction state reaction).1.deliveries = state.deliveries := by
  induction reaction generalizing state with
  | finish | fail | wait | call => rfl
  | change topic change rest ih => exact ih { state with channels := state.channels.change topic change }

theorem registrations_runReaction {reaction : Reaction L} (spares : reaction.Spares observer) :
    (runReaction state reaction).1.channels.registrations observer = state.channels.registrations observer := by
  induction reaction generalizing state with
  | finish | fail | wait | call => rfl
  | change topic change rest ih =>
    rw [runReaction, ih spares.2]
    exact Channels.registrations_change spares.1

theorem runReaction_told {reaction : Reaction L} (spares : reaction.Spares observer) (due : List Notice) :
    Told observer state due (runReaction state reaction).1 due :=
  ⟨registrations_runReaction spares, by rw [deliveries_runReaction]⟩

theorem runReaction_spares (state : State L) (reaction : Reaction L) (stop : Stop L) (spares : reaction.Spares observer)
    (stopped : (runReaction state reaction).2 = some stop) : stop.Spares observer := by
  induction reaction generalizing state with
  | finish | fail => cases stopped
  | change topic change rest ih => exact ih _ spares.2 stopped
  | wait rest | call call rest =>
    cases stopped
    exact spares

/-- What is left of telling listeners of a notice. -/
def leftOf (observer : L) (notice : Notice) (stopped : Option (Stop L × List L)) : List Notice :=
  stopped.elim [] fun stopped => List.replicate (stopped.2.count observer) notice

/-- What is left of telling notices. -/
def restOf (observer : L) (often : Topic → Nat) (stopped : Option (Stop L × Telling L)) : List Notice :=
  stopped.elim [] fun stopped => stopped.2.pending observer often

variable (spares : ∀ told listener notice, (service.react told listener notice).Spares observer)

include spares

theorem tellListeners_told {notice : Notice} {listeners : List L} :
    Told observer state (List.replicate (listeners.count observer) notice)
      (tellListeners service notice state listeners).1
      (leftOf observer notice (tellListeners service notice state listeners).2) := by
  induction listeners generalizing state with
  | nil => exact .refl state []
  | cons listener rest ih =>
    have split : List.replicate ((listener :: rest).count observer) notice
        = List.replicate ([listener].count observer) notice ++ List.replicate (rest.count observer) notice := by
      rw [List.replicate_append_replicate, ← List.count_append, List.singleton_append]
    -- The listener at hand has been told; the others are still to be told.
    have delivered : Told observer state (List.replicate ((listener :: rest).count observer) notice)
        { state with deliveries := state.deliveries ++ [⟨listener, notice⟩] }
        (List.replicate (rest.count observer) notice) := by
      refine ⟨rfl, ?_⟩
      rw [heard_append, heard_singleton, List.append_assoc, split]
    have reacted := delivered.trans
      (runReaction_told (spares state.deliveries listener notice) (List.replicate (rest.count observer) notice))
    rw [tellListeners]
    split <;> rename_i stopped <;> rw [stopped] at reacted
    · exact reacted.trans ih
    · exact reacted

theorem tell_told {often : Topic → Nat} (registered : state.channels.registrations observer = often)
    {notices : List Notice} :
    Told observer state (copies often notices) (tell service state notices).1
      (restOf observer often (tell service state notices).2) := by
  induction notices generalizing state with
  | nil => exact .refl state []
  | cons notice rest ih =>
    have counted : copies often (notice :: rest)
        = List.replicate ((state.channels.get notice.topic).listeners.count observer) notice ++ copies often rest := by
      rw [← registered]
      rfl
    have told : Told observer state (copies often (notice :: rest))
        (tellListeners service notice state (state.channels.get notice.topic).listeners).1
        (leftOf observer notice (tellListeners service notice state (state.channels.get notice.topic).listeners).2
          ++ copies often rest) := by
      rw [counted]
      exact (tellListeners_told spares).append _
    rw [tell]
    split <;> rename_i stopped <;> rw [stopped] at told
    · exact told.trans (ih (told.registrations.trans registered))
    · exact told

theorem tell_spares {notices : List Notice} {stop : Stop L} {telling : Telling L}
    (stopped : (tell service state notices).2 = some (stop, telling)) : stop.Spares observer :=
  (tell_stops runReaction_spares (fun notice _ told listener => spares told listener notice) stopped).1

theorem goOn_told {often : Topic → Nat} (registered : state.channels.registrations observer = often)
    {reaction : Reaction L} (own : reaction.Spares observer) {telling : Telling L} :
    Told observer state (telling.pending observer often) (goOn service state reaction telling).1
      (restOf observer often (goOn service state reaction telling).2) := by
  have reacted : Told observer state (telling.pending observer often) _ _ := runReaction_told own _
  rw [goOn]
  split <;> rename_i stopped <;> rw [stopped] at reacted
  · exact reacted
  · rename_i resumed
    have told : Told observer resumed (telling.pending observer often)
        (tellListeners service telling.notice resumed telling.listeners).1 _ := (tellListeners_told spares).append _
    have both := reacted.trans told
    split <;> rename_i halted <;> rw [halted] at both
    · exact both
    · exact both.trans (tell_told spares (both.registrations.trans registered))

theorem goOn_spares {reaction : Reaction L} (own : reaction.Spares observer) {telling later : Telling L}
    {stop : Stop L} (stopped : (goOn service state reaction telling).2 = some (stop, later)) :
    stop.Spares observer :=
  (goOn_stops runReaction_spares own (fun notice _ told listener => spares told listener notice) stopped).1

end Telling

section Step

variable {service : Service L} {observer : L} {state : State L} {task : Task L} {often : Topic → Nat}

theorem pending_afterTelling {answer : Answer} {told : State L × Option (Stop L × Telling L)} :
    (afterTelling task answer told).2.pending observer often
      = restOf observer often told.2 ++ task.waiting.flatMap fun outer => outer.rest.pending observer often := by
  rcases told with ⟨state, _ | ⟨_ | _, rest⟩⟩ <;> simp [afterTelling, Task.pending, restOf]

omit [DecidableEq L] in
theorem afterTelling_spares {answer : Answer} {told : State L × Option (Stop L × Telling L)}
    (resumed : ∀ outer ∈ task.waiting, ∀ outcome, (outer.resume outcome).Spares observer)
    (stops : ∀ stop telling, told.2 = some (stop, telling) → stop.Spares observer) :
    (afterTelling task answer told).2.Spares observer := by
  rcases told with ⟨state, _ | ⟨reaction | ⟨call, resume⟩, rest⟩⟩
  · exact ⟨resumed, fun _ _ _ tells => nomatch tells⟩
  · refine ⟨resumed, fun answer other rest tells => ?_⟩
    cases tells
    exact stops _ _ rfl
  · refine ⟨fun outer member => ?_, fun _ _ _ tells => nomatch tells⟩
    rcases List.mem_cons.1 member with rfl | member
    · exact stops _ _ rfl
    · exact resumed outer member

theorem afterTelling_told (task : Task L) (answer : Answer) {told : State L × Option (Stop L × Telling L)}
    {due : List Notice} (hears : Told observer state due told.1 (restOf observer often told.2)) :
    Told observer state (due ++ task.waiting.flatMap fun outer => outer.rest.pending observer often)
      (afterTelling task answer told).1 ((afterTelling task answer told).2.pending observer often) := by
  rw [(afterTelling_continued task answer told).1, pending_afterTelling]
  exact hears.append _

/-- The step lemma: what a listener was told, with what it is still to be told of, grows by the notices of the change
that is announced, if there is one. -/
theorem step_told (spares : ∀ told listener notice, (service.react told listener notice).Spares observer)
    (registered : state.channels.registrations observer = often) (own : task.Spares observer) (index : Nat)
    (outage : Outage) :
    Told observer state
      (copies often ((task.announcement? index).toList.flatMap (Commit.notices service.formula))
        ++ task.pending observer often)
      (step service outage state task).1 ((step service outage state task).2.pending observer often) ∧
    (step service outage state task).2.Spares observer := by
  have moved : Moved service state task _ _ := moved_step service outage
  obtain ⟨resumed, telling⟩ := own
  cases phase : task.phase with
  | fresh | queued | loading | loaded | saving =>
    have silent : task.announcement? index = none := by simp [Task.announcement?, phase]
    have nothing : task.pending observer often
        = task.waiting.flatMap fun outer => outer.rest.pending observer often := by simp [Task.pending, phase]
    rw [silent, nothing]
    generalize (step service outage state task).1 = after, (step service outage state task).2 = next at moved
    cases moved with
    | blocked | answered | entered | resumed | loaded | queried | prepared | abandoned | saved =>
      exact ⟨⟨rfl, rfl⟩, resumed, by simp⟩
    | announced earlier | told earlier | returned earlier | idle earlier => simp [phase] at earlier
  | saved old new =>
    have nothing : task.pending observer often
        = task.waiting.flatMap fun outer => outer.rest.pending observer often := by simp [Task.pending, phase]
    rw [nothing]
    simp only [step, phase, announce, Task.announcement?]
    cases request : task.call.request with
    | ask query => exact ⟨⟨rfl, rfl⟩, resumed, by simp⟩
    | change mutation =>
      have still : (unlock (remember state task.identity new) task.identity).channels.registrations observer
          = often := registered
      have told : Told observer _ (copies often (mutation.notices service.formula task.identity old new)) _ _ :=
        tell_told spares still
      simp only [Option.toList_some, List.flatMap_singleton]
      refine ⟨afterTelling_told task _ ⟨told.registrations, told.heard⟩, ?_⟩
      exact afterTelling_spares resumed fun _ _ => tell_spares spares
  | telling answer reaction rest =>
    have pending : task.pending observer often
        = rest.pending observer often ++ task.waiting.flatMap fun outer => outer.rest.pending observer often := by
      simp [Task.pending, phase]
    have own := telling answer reaction rest phase
    have silent : task.announcement? index = none := by simp [Task.announcement?, phase]
    rw [pending, silent]
    simp only [step, phase, Option.toList_none, List.flatMap_nil, copies_nil, List.nil_append]
    exact ⟨afterTelling_told task answer (goOn_told spares registered own),
      afterTelling_spares resumed fun _ _ => goOn_spares spares own⟩
  | finished outcome =>
    have silent : task.announcement? index = none := by simp [Task.announcement?, phase]
    rw [silent]
    simp only [step, phase, Option.toList_none, List.flatMap_nil, copies_nil, List.nil_append]
    split
    · exact ⟨.refl state _, resumed, telling⟩
    · rename_i outer waiting waits
      rw [waits] at resumed
      have own := resumed outer (List.mem_cons_self ..) outcome
      have pending : task.pending observer often = outer.rest.pending observer often
          ++ waiting.flatMap fun outer => outer.rest.pending observer often := by
        simp [Task.pending, phase, waits]
      rw [pending]
      exact ⟨afterTelling_told ⟨outer.call, .fresh, waiting⟩ outer.answer (goOn_told spares registered own),
        afterTelling_spares (fun other member => resumed other (List.mem_cons_of_mem _ member))
          fun _ _ => goOn_spares spares own⟩

end Step

end Service

end Progression
