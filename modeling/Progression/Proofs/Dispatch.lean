import Progression.Proofs.Announcements

/-!
Dispatch through a channel. What a listener does while it is called is a course of calls of its channel, which may wait
and may fail in the end. A dispatch calls each registration that stood when it started, once and in order, and no failure
gets out of it; afterwards the channel is as the calls of the listeners have made it, one after another.
-/

namespace Progression

variable {ε L : Type}

/-- What a listener does with its channel while it is called. -/
inductive Behaviour (ε L : Type) where
  | finish
  | fail (fault : ε)
  | register (listener : L) (rest : Behaviour ε L)
  /-- What comes after may depend on whether there was a registration to remove. -/
  | unregister (listener : L) (rest : Bool → Behaviour ε L)
  | count (rest : Nat → Behaviour ε L)
  /-- The listener gives back something that is to be awaited. -/
  | await (rest : Behaviour ε L)

/-- The changes that calls of listeners have made, in the order in which they were made. -/
def changesOf (calls : List (L × Response L)) : List (Change L) := calls.flatMap fun call => call.2.changes

theorem changesOf_append {first second : List (L × Response L)} :
    changesOf (first ++ second) = changesOf first ++ changesOf second := List.flatMap_append

variable [BEq L]

namespace Channel

variable {channel : Channel L} {listener : L}

theorem changeAll_append {first second : List (Change L)} :
    channel.changeAll (first ++ second) = (channel.changeAll first).changeAll second := List.foldl_append

/-- Of the registrations of a listener, or of equal ones, the earliest is removed; if there is none, nothing is. -/
theorem unregister_cases (channel : Channel L) (listener : L) :
    (channel.isRegistered listener = false ∧ channel.unregister listener = channel) ∨
      ∃ before first later, channel.listeners = before ++ first :: later ∧
        (∀ other ∈ before, (other == listener) = false) ∧ (first == listener) = true ∧
        channel.isRegistered listener = true ∧ (channel.unregister listener).listeners = before ++ later := by
  cases registered : channel.isRegistered listener with
  | false =>
    refine .inl ⟨rfl, ?_⟩
    have absent : ∀ other ∈ channel.listeners, ¬ (other == listener) = true := by
      simpa [isRegistered] using registered
    rw [unregister, List.erase_eq_eraseP', List.eraseP_of_forall_not absent]
  | true =>
    obtain ⟨found, member, equal⟩ := List.any_eq_true.1 registered
    obtain ⟨first, before, later, earlier, equal, parts, removed⟩ :=
      List.exists_of_eraseP (p := (· == listener)) member equal
    refine .inr ⟨before, first, later, parts, fun other member => ?_, equal, rfl, ?_⟩
    · simpa using earlier other member
    · rw [unregister, List.erase_eq_eraseP', removed]

end Channel

namespace Behaviour

/-- Let a listener run. -/
def run : Behaviour ε L → Channel L → Except ε Unit × Channel L
  | finish, channel => (.ok (), channel)
  | fail fault, channel => (.error fault, channel)
  | register listener rest, channel => rest.run (channel.register listener)
  | unregister listener rest, channel =>
    (rest (channel.isRegistered listener)).run (channel.unregister listener)
  | count rest, channel => (rest channel.size).run channel
  | await rest, channel => rest.run channel

/-- The changes that a listener makes. -/
def changes : Behaviour ε L → Channel L → List (Change L)
  | finish, _ => []
  | fail _, _ => []
  | register listener rest, channel => .register listener :: rest.changes (channel.register listener)
  | unregister listener rest, channel =>
    .unregister listener :: (rest (channel.isRegistered listener)).changes (channel.unregister listener)
  | count rest, channel => (rest channel.size).changes channel
  | await rest, channel => rest.changes channel

/-- A listener leaves the channel as its changes make it, whether or not it fails. -/
theorem run_channel (behaviour : Behaviour ε L) (channel : Channel L) :
    (behaviour.run channel).2 = channel.changeAll (behaviour.changes channel) := by
  induction behaviour generalizing channel with
  | finish | fail => rfl
  | register listener rest ih => exact ih _
  | unregister listener rest ih => exact ih _ _
  | count rest ih => exact ih _ _
  | await rest ih => exact ih _

/-- What a listener does, seen from outside. -/
def response (behaviour : Behaviour ε L) (channel : Channel L) : Response L :=
  ⟨behaviour.changes channel, !(behaviour.run channel).1.isOk⟩

end Behaviour

namespace Channel

/-- Call one listener, whose failure gets out. What it does may depend on the calls made before. -/
def attemptCall (behave : List (L × Response L) → L → Behaviour ε L) (listener : L) :
    ExceptT ε (StateM (Channel L × List (L × Response L))) Unit :=
  ExceptT.mk fun state =>
    let behaviour := behave state.2 listener
    let ended := behaviour.run state.1
    (ended.1, ended.2, state.2 ++ [(listener, behaviour.response state.1)])

/-- Call one listener, and catch its failure. -/
def caughtCall (behave : List (L × Response L) → L → Behaviour ε L) (listener : L) :
    ExceptT ε (StateM (Channel L × List (L × Response L))) Unit :=
  tryCatch (attemptCall behave listener) fun _ => pure ()

/-- Call each listener that is registered now, in order. -/
def attemptAll (behave : List (L × Response L) → L → Behaviour ε L) :
    ExceptT ε (StateM (Channel L × List (L × Response L))) Unit := do
  (← get).1.listeners.forM (caughtCall behave)

/-- How listeners respond in a dispatch through a channel: each finds the channel as the calls before have left it. -/
def responses (behave : List (L × Response L) → L → Behaviour ε L) (channel : Channel L)
    (calls : List (L × Response L)) (listener : L) : Response L :=
  (behave calls listener).response (channel.changeAll (changesOf calls))

section Dispatch

variable (respond : List (L × Response L) → L → Response L)

/-- The step lemma: one more call is made, and the channel is as its changes make it. -/
theorem call_eq (channel : Channel L) (calls : List (L × Response L)) (listener : L) :
    call respond (channel, calls) listener
      = (channel.changeAll (changesOf [(listener, respond calls listener)]),
          calls ++ [(listener, respond calls listener)]) := by
  simp [call, changesOf]

/-- The run lemma: of each listener one call is made, in order, and the channel is as the changes of all make it. -/
theorem foldl_call (channel : Channel L) (calls : List (L × Response L)) (listeners : List L) :
    ∃ made : List (L × Response L), listeners.foldl (call respond) (channel, calls)
        = (channel.changeAll (changesOf made), calls ++ made) ∧
      made.map Prod.fst = listeners ∧
      ∀ done listener response, done ++ [(listener, response)] <+: made → response = respond (calls ++ done) listener := by
  induction listeners generalizing channel calls with
  | nil => exact ⟨[], by simp [changesOf, changeAll], rfl, by simp⟩
  | cons listener rest ih =>
    obtain ⟨made, ends, called, responded⟩ :=
      ih (channel.changeAll (changesOf [(listener, respond calls listener)]))
        (calls ++ [(listener, respond calls listener)])
    refine ⟨(listener, respond calls listener) :: made, ?_, by simp [called], fun done other response begins => ?_⟩
    · rw [List.foldl_cons, call_eq, ends, ← changeAll_append, ← changesOf_append, List.append_assoc,
        List.singleton_append]
    · cases done with
      | nil =>
        obtain ⟨same, -⟩ := List.cons_prefix_cons.1 begins
        cases same
        rw [List.append_nil]
      | cons first done =>
        obtain ⟨rfl, later⟩ := List.cons_prefix_cons.1 begins
        rw [responded done other response later, List.append_assoc, List.singleton_append]

end Dispatch

section Attempts

variable {σ : Type}

theorem run_caught (action : ExceptT ε (StateM σ) Unit) (state : σ) :
    (tryCatch action fun _ => pure () : ExceptT ε (StateM σ) Unit).run.run state
      = (.ok (), (action.run.run state).2) := by
  simp only [tryCatch, tryCatchThe, MonadExceptOf.tryCatch, ExceptT.tryCatch, ExceptT.run, ExceptT.mk, StateT.run, bind,
    StateT.bind]
  rcases action state with ⟨fault | done, after⟩ <;> rfl

omit [BEq L] in
theorem run_forM_cons (act : L → ExceptT ε (StateM σ) Unit) {first : L} {rest : List L} {state after : σ}
    (done : (act first).run.run state = (.ok (), after)) :
    ((first :: rest).forM act).run.run state = (rest.forM act).run.run after := by
  rw [List.forM_eq_forM, List.forM_cons, ExceptT.run_bind, StateT.run_bind, done]
  rfl

variable (behave : List (L × Response L) → L → Behaviour ε L) {start channel : Channel L}
  {calls : List (L × Response L)}

theorem run_caughtCall (listener : L) (left : channel = start.changeAll (changesOf calls)) :
    (caughtCall behave listener).run.run (channel, calls)
      = (.ok (), call (responses behave start) (channel, calls) listener) := by
  rw [caughtCall, run_caught]
  subst left
  have ended : ((attemptCall behave listener).run.run (start.changeAll (changesOf calls), calls)).2
      = (((behave calls listener).run (start.changeAll (changesOf calls))).2,
          calls ++ [(listener, responses behave start calls listener)]) := rfl
  rw [ended, Behaviour.run_channel]
  rfl

theorem run_forM_caughtCall (listeners : List L) (left : channel = start.changeAll (changesOf calls)) :
    (listeners.forM (caughtCall behave)).run.run (channel, calls)
      = (.ok (), listeners.foldl (call (responses behave start)) (channel, calls)) := by
  induction listeners generalizing channel calls with
  | nil => rfl
  | cons listener rest ih =>
    rw [run_forM_cons _ (run_caughtCall behave listener left), List.foldl_cons, call_eq]
    refine ih ?_
    rw [left, ← changeAll_append, ← changesOf_append]

end Attempts

/-- A listener that is registered twice takes back one of its registrations and registers another one, which is called
the next time. -/
example :
    let behave (_ : List (String × Response String)) : String → Behaviour Unit String
      | "once" => .unregister "once" fun found => if found then .register "late" .finish else .fail ()
      | _ => .fail ()
    let ended := ({ listeners := ["once", "fails", "once"] } : Channel String).dispatch
      (responses behave ⟨["once", "fails", "once"]⟩) []
    ended.2.map Prod.fst = ["once", "fails", "once"] ∧ ended.1.listeners = ["fails", "late", "late"] := by
  decide

end Channel

/-- The changes for a topic that a listener makes before it stops. -/
def Reaction.changes (topic : Topic) : Reaction L → List (Change L)
  | .change asked made rest => if asked = topic then made :: rest.changes topic else rest.changes topic
  | _ => []

/-- Whether a listener fails before it stops. -/
def Reaction.fails : Reaction L → Bool
  | .fail => true
  | .change _ _ rest => rest.fails
  | _ => false

namespace Service

variable {L : Type} [DecidableEq L] {service : Service L}

theorem get_runReaction (state : State L) (reaction : Reaction L) (topic : Topic) :
    (runReaction state reaction).1.channels.get topic = (state.channels.get topic).changeAll (reaction.changes topic) := by
  induction reaction generalizing state with
  | finish | fail | wait | call => rfl
  | change asked made rest ih =>
    rw [runReaction, ih, Channels.change, Channels.get_set, Reaction.changes]
    split
    · rename_i same
      subst same
      rfl
    · rfl

/-- How listeners respond to a notice after what was told before. -/
def answering (service : Service L) (notice : Notice) (told : List (Delivery L)) (calls : List (L × Response L))
    (listener : L) : Response L :=
  let reaction := service.react (told ++ calls.map fun call => ⟨call.1, notice⟩) listener notice
  ⟨reaction.changes notice.topic, reaction.fails⟩

section Prompt

variable (prompt : ∀ told listener notice, (service.react told listener notice).Prompt) (notice : Notice)

include prompt

theorem tellListeners_eq_foldl {told : List (Delivery L)} {calls : List (L × Response L)} {state : State L}
    (delivered : state.deliveries = told ++ calls.map fun call => ⟨call.1, notice⟩) (listeners : List L) :
    let ended := listeners.foldl (Channel.call (service.answering notice told)) (state.channels.get notice.topic, calls)
    let after := (tellListeners service notice state listeners).1
    after.channels.get notice.topic = ended.1 ∧
      after.deliveries = told ++ ended.2.map fun call => ⟨call.1, notice⟩ := by
  induction listeners generalizing calls state with
  | nil => exact ⟨rfl, delivered⟩
  | cons listener rest ih =>
    let reaction := service.react state.deliveries listener notice
    have same : service.answering notice told calls listener = ⟨reaction.changes notice.topic, reaction.fails⟩ := by
      rw [answering, ← delivered]
    have returns := runReaction_of_prompt { state with deliveries := state.deliveries ++ [⟨listener, notice⟩] }
      (prompt state.deliveries listener notice)
    have changed := get_runReaction { state with deliveries := state.deliveries ++ [⟨listener, notice⟩] } reaction
      notice.topic
    have listed := deliveries_runReaction { state with deliveries := state.deliveries ++ [⟨listener, notice⟩] } reaction
    rw [tellListeners, List.foldl_cons, Channel.call, same]
    split <;> rename_i stopped <;> rw [stopped] at returns changed listed
    · rename_i after
      rw [← changed]
      refine ih ?_
      rw [listed, delivered, List.map_append, List.append_assoc]
      rfl
    · cases returns

/-- If listeners neither wait nor call, telling them of a notice is a dispatch through the channel of its topic. -/
theorem tellListeners_eq_dispatch (state : State L) :
    let told := tellListeners service notice state (state.channels.get notice.topic).listeners
    let ended := (state.channels.get notice.topic).dispatch (service.answering notice state.deliveries) []
    told.2 = none ∧ told.1.channels.get notice.topic = ended.1 ∧
      told.1.deliveries = state.deliveries ++ ended.2.map fun call => ⟨call.1, notice⟩ :=
  ⟨(tellListeners_of_prompt prompt notice state _).1,
    tellListeners_eq_foldl prompt notice (List.append_nil _).symm (state.channels.get notice.topic).listeners⟩

end Prompt

end Service

end Progression
