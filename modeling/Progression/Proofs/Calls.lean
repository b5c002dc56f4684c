import Progression.Proofs.Entries
import Progression.Proofs.Outcome
import Progression.Service.Step

/-!
What a step of a call can do, said once. A step is one of a few moves; telling listeners changes nothing but
registrations and what was told, and a call touches the books of no identity but its own.
-/

namespace Progression

variable {L : Type}

/-- The identity that a task works on. -/
def Task.identity (task : Task L) : Identity := task.call.identity

namespace Phase

/-- Whether a call in a phase has the lock of its identity. -/
def Holds : Phase L → Prop
  | .loading | .loaded _ | .saving _ _ | .saved _ _ => True
  | _ => False

/-- Whether a call in a phase has still to save its change or to give its answer. -/
def Open : Phase L → Prop
  | .fresh | .queued | .loading | .loaded _ | .saving _ _ => True
  | _ => False

/-- Whether a call in a phase is on its way to the lock of its identity. -/
def Waits : Phase L → Prop
  | .fresh | .queued => True
  | _ => False

theorem Waits.not_holds {phase : Phase L} (waits : phase.Waits) : ¬ phase.Holds := by
  cases phase <;> simp_all [Waits, Holds]

end Phase

/-- Whether every call that a reaction makes is allowed. -/
def Reaction.CallsOnly (allowed : Call → Prop) : Reaction L → Prop
  | .finish => True
  | .fail => True
  | .change _ _ rest => rest.CallsOnly allowed
  | .wait rest => rest.CallsOnly allowed
  | .call asked rest => allowed asked ∧ ∀ outcome, (rest outcome).CallsOnly allowed

def Stop.CallsOnly (allowed : Call → Prop) : Stop L → Prop
  | .wait rest => rest.CallsOnly allowed
  | .call asked rest => allowed asked ∧ ∀ outcome, (rest outcome).CallsOnly allowed

/-- A task all of whose calls are allowed but the one that nothing waits for, and those that its listeners
have still to make. -/
structure Task.CallsOnly (allowed : Call → Prop) (task : Task L) : Prop where
  calls : ∀ call ∈ (task.call :: task.waiting.map Waiting.call).dropLast, allowed call
  resumed : ∀ outer ∈ task.waiting, ∀ outcome, (outer.resume outcome).CallsOnly allowed
  telling : ∀ answer reaction rest, task.phase = .telling answer reaction rest → reaction.CallsOnly allowed

namespace Service

/-- The XP that the store of a service has for an identity; without a row it is none. -/
def State.stored (state : State L) (identity : Identity) : Int := (state.store.rows.get? identity).getD 0

/-- What a service and its store have in their books about one identity. -/
structure Account where
  row : Option Int
  known : Option Int
  locked : Prop

/-- The XP that the store has by an account. -/
def Account.stored (account : Account) : Int := account.row.getD 0

def State.account (state : State L) (identity : Identity) : Account :=
  ⟨state.store.rows.get? identity, state.cache.get? identity, identity ∈ state.locked⟩

/-- States that differ at most in registrations and in what was told. -/
structure SameBooks (before after : State L) : Prop where
  store : after.store = before.store
  cache : after.cache = before.cache
  locked : after.locked = before.locked

theorem SameBooks.refl (state : State L) : SameBooks state state := ⟨rfl, rfl, rfl⟩

theorem SameBooks.trans {first second third : State L} (left : SameBooks first second)
    (right : SameBooks second third) : SameBooks first third :=
  ⟨right.store.trans left.store, right.cache.trans left.cache, right.locked.trans left.locked⟩

theorem SameBooks.account {before after : State L} (same : SameBooks before after) (identity : Identity) :
    after.account identity = before.account identity := by
  simp only [State.account, same.store, same.cache, same.locked]

/-- Write the row of an identity. -/
def write (state : State L) (identity : Identity) (xp : Int) : State L :=
  { state with store := { state.store with rows := state.store.rows.put identity xp } }

section Account

variable {state : State L} {identity other : Identity} (different : other ≠ identity)

include different

theorem account_lock : (lock state identity).account other = state.account other := by
  simp [State.account, lock, different]

theorem account_unlock : (unlock state identity).account other = state.account other := by
  simp [State.account, unlock, different]

theorem account_remember {xp : Int} : (remember state identity xp).account other = state.account other := by
  simp [State.account, remember, different.symm]

theorem account_write {xp : Int} : (write state identity xp).account other = state.account other := by
  simp [State.account, write, different.symm]

end Account

section Telling

variable [DecidableEq L] {service : Service L}

section Keeps

variable {keeps : State L → State L → Prop} (refl : ∀ state, keeps state state)
  (trans : ∀ {first second third}, keeps first second → keeps second third → keeps first third)

include refl trans

theorem tellListeners_keeps {notice : Notice}
    (reacts : ∀ state listener, keeps state
      (runReaction { state with deliveries := state.deliveries ++ [⟨listener, notice⟩] }
        (service.react state.deliveries listener notice)).1)
    (state : State L) (listeners : List L) : keeps state (tellListeners service notice state listeners).1 := by
  induction listeners generalizing state with
  | nil => exact refl state
  | cons listener rest ih =>
    have reacted := reacts state listener
    rw [tellListeners]
    split <;> rename_i stopped <;> rw [stopped] at reacted
    · exact trans reacted (ih _)
    · exact reacted

theorem tell_keeps {notices : List Notice}
    (reacts : ∀ notice ∈ notices, ∀ state listener, keeps state
      (runReaction { state with deliveries := state.deliveries ++ [⟨listener, notice⟩] }
        (service.react state.deliveries listener notice)).1)
    (state : State L) : keeps state (tell service state notices).1 := by
  induction notices generalizing state with
  | nil => exact refl state
  | cons notice rest ih =>
    have told := tellListeners_keeps refl trans (reacts notice (List.mem_cons_self ..)) state
      (state.channels.get notice.topic).listeners
    rw [tell]
    split <;> rename_i stopped <;> rw [stopped] at told
    · exact trans told (ih (fun notice member => reacts notice (List.mem_cons_of_mem _ member)) _)
    · exact told

theorem goOn_keeps {reaction : Reaction L} {telling : Telling L} (state : State L)
    (own : keeps state (runReaction state reaction).1)
    (reacts : ∀ notice ∈ telling.notice :: telling.notices, ∀ state listener, keeps state
      (runReaction { state with deliveries := state.deliveries ++ [⟨listener, notice⟩] }
        (service.react state.deliveries listener notice)).1) :
    keeps state (goOn service state reaction telling).1 := by
  rw [goOn]
  split <;> rename_i stopped <;> rw [stopped] at own
  · exact own
  · rename_i after
    have told := trans own
      (tellListeners_keeps refl trans (reacts telling.notice (List.mem_cons_self ..)) after telling.listeners)
    split <;> rename_i halted <;> rw [halted] at told
    · exact told
    · exact trans told (tell_keeps refl trans (fun notice member => reacts notice (List.mem_cons_of_mem _ member)) _)

end Keeps

theorem runReaction_books (state : State L) (reaction : Reaction L) :
    SameBooks state (runReaction state reaction).1 := by
  induction reaction generalizing state with
  | finish | fail | wait | call => exact .refl state
  | change topic change rest ih =>
    have changed : SameBooks state { state with channels := state.channels.change topic change } := ⟨rfl, rfl, rfl⟩
    exact changed.trans (ih _)

theorem react_books (notice : Notice) (state : State L) (listener : L) :
    SameBooks state (runReaction { state with deliveries := state.deliveries ++ [⟨listener, notice⟩] }
      (service.react state.deliveries listener notice)).1 := by
  have told : SameBooks state { state with deliveries := state.deliveries ++ [⟨listener, notice⟩] } := ⟨rfl, rfl, rfl⟩
  exact told.trans (runReaction_books _ _)

theorem tell_books (state : State L) (notices : List Notice) : SameBooks state (tell service state notices).1 :=
  tell_keeps SameBooks.refl SameBooks.trans (fun notice _ => react_books notice) state

theorem goOn_books (state : State L) (reaction : Reaction L) (telling : Telling L) :
    SameBooks state (goOn service state reaction telling).1 :=
  goOn_keeps SameBooks.refl SameBooks.trans state (runReaction_books state reaction) fun notice _ => react_books notice

section Stops

variable {fine : Reaction L → Prop} {halts : Stop L → Prop}
  (stops : ∀ state reaction stop, fine reaction → (runReaction state reaction).2 = some stop → halts stop)

include stops

theorem tellListeners_stops {notice : Notice} (reacts : ∀ told listener, fine (service.react told listener notice))
    {state : State L} {listeners later : List L} {stop : Stop L}
    (stopped : (tellListeners service notice state listeners).2 = some (stop, later)) : halts stop := by
  induction listeners generalizing state with
  | nil => cases stopped
  | cons listener rest ih =>
    rw [tellListeners] at stopped
    split at stopped <;> rename_i reacted
    · exact ih stopped
    · cases stopped
      exact stops _ _ _ (reacts state.deliveries listener) (congrArg Prod.snd reacted)

theorem tell_stops {notices : List Notice}
    (reacts : ∀ notice ∈ notices, ∀ told listener, fine (service.react told listener notice))
    {state : State L} {stop : Stop L} {telling : Telling L}
    (stopped : (tell service state notices).2 = some (stop, telling)) :
    halts stop ∧ telling.notice :: telling.notices ⊆ notices := by
  induction notices generalizing state with
  | nil => cases stopped
  | cons notice rest ih =>
    rw [tell] at stopped
    split at stopped <;> rename_i halted
    · obtain ⟨halting, left⟩ := ih (fun notice member => reacts notice (List.mem_cons_of_mem _ member)) stopped
      exact ⟨halting, List.subset_cons_of_subset _ left⟩
    · cases stopped
      exact ⟨tellListeners_stops stops (reacts notice (List.mem_cons_self ..)) (congrArg Prod.snd halted),
        List.Subset.refl _⟩

theorem goOn_stops {reaction : Reaction L} (own : fine reaction) {telling : Telling L}
    (reacts : ∀ notice ∈ telling.notice :: telling.notices, ∀ told listener, fine (service.react told listener notice))
    {state : State L} {stop : Stop L} {later : Telling L}
    (stopped : (goOn service state reaction telling).2 = some (stop, later)) :
    halts stop ∧ later.notice :: later.notices ⊆ telling.notice :: telling.notices := by
  rw [goOn] at stopped
  split at stopped <;> rename_i reacted
  · cases stopped
    exact ⟨stops _ _ _ own (congrArg Prod.snd reacted), List.Subset.refl _⟩
  · split at stopped <;> rename_i halted
    · cases stopped
      exact ⟨tellListeners_stops stops (reacts telling.notice (List.mem_cons_self ..)) (congrArg Prod.snd halted),
        List.Subset.refl _⟩
    · obtain ⟨halting, left⟩ := tell_stops stops (fun notice member => reacts notice (List.mem_cons_of_mem _ member)) stopped
      exact ⟨halting, List.subset_cons_of_subset _ left⟩

end Stops

section CallsOnly

variable {allowed : Call → Prop}

theorem runReaction_callsOnly (state : State L) (reaction : Reaction L) (stop : Stop L)
    (calls : reaction.CallsOnly allowed) (stopped : (runReaction state reaction).2 = some stop) :
    stop.CallsOnly allowed := by
  induction reaction generalizing state with
  | finish | fail => cases stopped
  | change topic change rest ih => exact ih _ calls stopped
  | wait rest | call call rest =>
    cases stopped
    exact calls

variable (only : ∀ told listener notice, (service.react told listener notice).CallsOnly allowed)

include only

theorem tell_callsOnly {state : State L} {notices : List Notice} {stop : Stop L} {telling : Telling L}
    (stopped : (tell service state notices).2 = some (stop, telling)) : stop.CallsOnly allowed :=
  (tell_stops runReaction_callsOnly (fun notice _ told listener => only told listener notice) stopped).1

theorem goOn_callsOnly {state : State L} {reaction : Reaction L} (calls : reaction.CallsOnly allowed)
    {telling later : Telling L} {stop : Stop L}
    (stopped : (goOn service state reaction telling).2 = some (stop, later)) : stop.CallsOnly allowed :=
  (goOn_stops runReaction_callsOnly calls (fun notice _ told listener => only told listener notice) stopped).1

omit only [DecidableEq L] in
theorem afterTelling_callsOnly {task : Task L} {answer : Answer} {told : State L × Option (Stop L × Telling L)}
    (calls : ∀ call ∈ (task.call :: task.waiting.map Waiting.call).dropLast, allowed call)
    (resumed : ∀ outer ∈ task.waiting, ∀ outcome, (outer.resume outcome).CallsOnly allowed)
    (stops : ∀ stop telling, told.2 = some (stop, telling) → stop.CallsOnly allowed) :
    (afterTelling task answer told).2.CallsOnly allowed := by
  obtain ⟨state, stopped⟩ := told
  match stopped with
  | none => exact ⟨calls, resumed, fun _ _ _ tells => nomatch tells⟩
  | some (.wait reaction, rest) =>
    refine ⟨calls, resumed, fun answer other rest tells => ?_⟩
    cases tells
    exact stops _ _ rfl
  | some (.call call resume, rest) =>
    have stop := stops _ _ rfl
    refine ⟨fun other member => ?_, fun outer member => ?_, fun _ _ _ tells => nomatch tells⟩
    · rcases List.mem_cons.1 member with rfl | member
      · exact stop.1
      · exact calls other member
    · rcases List.mem_cons.1 member with rfl | member
      · exact stop.2
      · exact resumed outer member

end CallsOnly

/-- Where a task with a settled answer can stand after listeners were told. -/
inductive Continued (answer : Answer) (task : Task L) : Task L → Prop where
  | finished : Continued answer task { task with phase := .finished (.ok answer) }
  | telling {reaction : Reaction L} {rest : Telling L} :
    Continued answer task { task with phase := .telling answer reaction rest }
  | calling {call : Call} {resume : Outcome → Reaction L} {rest : Telling L} :
    Continued answer task ⟨call, .fresh, ⟨task.call, answer, resume, rest⟩ :: task.waiting⟩

omit [DecidableEq L] in
theorem afterTelling_continued (task : Task L) (answer : Answer)
    (told : State L × Option (Stop L × Telling L)) :
    (afterTelling task answer told).1 = told.1 ∧ Continued answer task (afterTelling task answer told).2 := by
  obtain ⟨state, stopped⟩ := told
  cases stopped with
  | none => exact ⟨rfl, .finished⟩
  | some stopped =>
    obtain ⟨stop, rest⟩ := stopped
    cases stop with
    | wait reaction => exact ⟨rfl, .telling⟩
    | call call resume => exact ⟨rfl, .calling⟩

omit [DecidableEq L] in
theorem Continued.not_holds {answer : Answer} {task next : Task L} (continued : Continued answer task next) :
    ¬ next.phase.Holds := by
  cases continued <;> simp [Phase.Holds]

end Telling

/-- What one step of a task can do: the moves of a call. -/
inductive Moved (service : Service L) (state : State L) (task : Task L) : State L → Task L → Prop where
  /-- Another call has the lock. -/
  | blocked (waits : task.phase.Waits) (taken : task.identity ∈ state.locked) :
    Moved service state task state { task with phase := .queued }
  /-- A query about known XP is answered. -/
  | answered {query : Query} {xp : Int} (waits : task.phase.Waits) (asks : task.call.request = .ask query)
    (known : state.cache.get? task.identity = some xp) :
    Moved service state task state
      { task with phase := .finished (.ok (query.answer service.formula service.ranks xp)) }
  /-- The lock is taken, and the XP is to be loaded. -/
  | entered (waits : task.phase.Waits) (free : task.identity ∉ state.locked)
    (unknown : state.cache.get? task.identity = none) :
    Moved service state task (lock state task.identity) { task with phase := .loading }
  /-- The lock is taken by a change of known XP. -/
  | resumed {mutation : Mutation} {xp : Int} (waits : task.phase.Waits) (free : task.identity ∉ state.locked)
    (changes : task.call.request = .change mutation) (known : state.cache.get? task.identity = some xp) :
    Moved service state task (lock state task.identity)
      { task with phase := .saving xp (mutation.apply service.formula xp) }
  | loaded (loads : task.phase = .loading) :
    Moved service state task state { task with phase := .loaded (state.stored task.identity) }
  /-- A query is answered with loaded XP. -/
  | queried {query : Query} {xp : Int} (loaded : task.phase = .loaded xp) (asks : task.call.request = .ask query) :
    Moved service state task (unlock (remember state task.identity xp) task.identity)
      { task with phase := .finished (.ok (query.answer service.formula service.ranks xp)) }
  /-- A change of loaded XP is to be saved. -/
  | prepared {mutation : Mutation} {xp : Int} (loaded : task.phase = .loaded xp)
    (changes : task.call.request = .change mutation) :
    Moved service state task (remember state task.identity xp)
      { task with phase := .saving xp (mutation.apply service.formula xp) }
  /-- The store fails. -/
  | abandoned {fault : StoreFault} (unsaved : task.phase = .loading ∨ ∃ old new, task.phase = .saving old new) :
    Moved service state task (unlock state task.identity) { task with phase := .finished (.error fault) }
  | saved {old new : Int} (saves : task.phase = .saving old new) :
    Moved service state task (write state task.identity new) { task with phase := .saved old new }
  /-- Saved XP becomes known, and listeners are told. -/
  | announced {old new : Int} {answer : Answer} {after : State L} {next : Task L}
    (saved : task.phase = .saved old new)
    (books : SameBooks (unlock (remember state task.identity new) task.identity) after)
    (continued : Continued answer task next)
    (settled : ∀ mutation, task.call.request = .change mutation → answer = mutation.answer service.formula new) :
    Moved service state task after next
  /-- A listener that waited goes on. -/
  | told {answer : Answer} {reaction : Reaction L} {rest : Telling L} {after : State L} {next : Task L}
    (tells : task.phase = .telling answer reaction rest) (books : SameBooks state after)
    (continued : Continued answer task next) : Moved service state task after next
  /-- A listener that made a call goes on. -/
  | returned {outcome : Outcome} {outer : Waiting L} {waiting : List (Waiting L)} {after : State L} {next : Task L}
    (ended : task.phase = .finished outcome) (waits : task.waiting = outer :: waiting)
    (books : SameBooks state after) (continued : Continued outer.answer ⟨outer.call, .fresh, waiting⟩ next) :
    Moved service state task after next
  /-- The task is over. -/
  | idle {outcome : Outcome} (ended : task.phase = .finished outcome) (alone : task.waiting = []) :
    Moved service state task state task

section Step

variable (service : Service L) {state : State L} {task : Task L}

theorem isLocked_iff {identity : Identity} : isLocked state identity = true ↔ identity ∈ state.locked := by
  simp [isLocked]

theorem unlock_lock {identity : Identity} (free : identity ∉ state.locked) :
    unlock (lock state identity) identity = state := by
  have kept : state.locked.filter (fun other => other ≠ identity) = state.locked := by
    refine List.filter_eq_self.2 fun other member => ?_
    have different : other ≠ identity := fun same => free (same ▸ member)
    simpa using different
  have locks : (unlock (lock state identity) identity).locked = state.locked := by
    rw [← kept]
    simp [unlock, lock]
  cases state
  simpa [unlock, lock] using locks

theorem moved_acquire (waits : task.phase.Waits) :
    Moved service state task (acquire service state task).1 (acquire service state task).2 := by
  rw [acquire]
  split
  · rename_i taken
    exact .blocked waits (isLocked_iff.1 taken)
  · rename_i free
    have free : task.identity ∉ state.locked := fun taken => free (isLocked_iff.2 taken)
    dsimp only
    split
    · rename_i xp known
      rw [proceed]
      split
      · rename_i query asks
        -- The lock is taken and given up at once.
        have same : unlock (lock state task.call.identity) task.call.identity = state := unlock_lock free
        rw [same]
        exact .answered waits asks known
      · rename_i mutation changes
        exact .resumed waits free changes known
    · rename_i unknown
      exact .entered waits free unknown

theorem moved_begin (isFresh : task.phase = .fresh) :
    Moved service state task (begin service state task).1 (begin service state task).2 := by
  have waits : task.phase.Waits := by rw [isFresh]; trivial
  rw [begin]
  split
  · rename_i query xp asks known
    exact .answered waits asks known
  · exact moved_acquire service waits

theorem moved_load (outage : Outage) (loads : task.phase = .loading) :
    Moved service state task (load outage state task).1 (load outage state task).2 := by
  rw [load]
  split
  · exact .abandoned (.inl loads)
  · split
    · exact .abandoned (.inl loads)
    · rename_i row success
      rw [Store.load, bind_eq_ok] at success
      obtain ⟨_, _, success⟩ := success
      cases success
      exact .loaded loads

theorem moved_proceed {xp : Int} (loaded : task.phase = .loaded xp) :
    Moved service state task (proceed service (remember state task.identity xp) task xp).1
      (proceed service (remember state task.identity xp) task xp).2 := by
  rw [proceed]
  split
  · rename_i query asks
    exact .queried loaded asks
  · rename_i mutation changes
    exact .prepared loaded changes

theorem moved_save (outage : Outage) {old new : Int} (saves : task.phase = .saving old new) :
    Moved service state task (save outage state task old new).1 (save outage state task old new).2 := by
  rw [save]
  split
  · exact .abandoned (.inr ⟨old, new, saves⟩)
  · split
    · exact .abandoned (.inr ⟨old, new, saves⟩)
    · rename_i store success
      rw [Store.save, bind_eq_ok] at success
      obtain ⟨_, _, success⟩ := success
      split at success
      · cases success
        exact .saved saves
      · cases success

variable [DecidableEq L]

theorem moved_announce {old new : Int} (saved : task.phase = .saved old new) :
    Moved service state task (announce service state task old new).1 (announce service state task old new).2 := by
  rw [announce]
  split
  · rename_i query asks
    refine .announced saved (.refl _) .finished fun mutation changes => ?_
    rw [asks] at changes
    cases changes
  · rename_i mutation changes
    obtain ⟨state_eq, continued⟩ := afterTelling_continued task (mutation.answer service.formula new)
      (tell service (unlock (remember state task.identity new) task.identity)
        (mutation.notices service.formula task.identity old new))
    refine .announced saved ?_ continued fun other others => ?_
    · exact state_eq ▸ tell_books ..
    · rw [changes] at others
      cases others
      rfl

/-- A step of a task is one of the moves. -/
theorem moved_step (outage : Outage) :
    Moved service state task (step service outage state task).1 (step service outage state task).2 := by
  rw [step]
  split
  · rename_i isFresh
    exact moved_begin service isFresh
  · rename_i queued
    exact moved_acquire service (by rw [queued]; trivial)
  · rename_i loads
    exact moved_load service outage loads
  · rename_i xp loaded
    exact moved_proceed service loaded
  · rename_i old new saves
    exact moved_save service outage saves
  · rename_i old new saved
    exact moved_announce service saved
  · rename_i answer reaction rest tells
    obtain ⟨state_eq, continued⟩ := afterTelling_continued task answer (goOn service state reaction rest)
    exact .told tells (state_eq ▸ goOn_books ..) continued
  · rename_i outcome ended
    split
    · rename_i alone
      exact .idle ended alone
    · rename_i outer waiting waits
      obtain ⟨state_eq, continued⟩ := afterTelling_continued ⟨outer.call, .fresh, waiting⟩ outer.answer
        (goOn service state (outer.resume outcome) outer.rest)
      exact .returned ended waits (state_eq ▸ goOn_books ..) continued

theorem step_callsOnly {allowed : Call → Prop} (outage : Outage)
    (only : ∀ told listener notice, (service.react told listener notice).CallsOnly allowed)
    (calls : task.CallsOnly allowed) : (step service outage state task).2.CallsOnly allowed := by
  have moved : Moved service state task _ _ := moved_step service outage
  obtain ⟨inner, resumed, telling⟩ := calls
  cases phase : task.phase with
  | fresh | queued | loading | loaded | saving =>
    generalize (step service outage state task).1 = after, (step service outage state task).2 = next at moved
    cases moved with
    | blocked | answered | entered | resumed | loaded | queried | prepared | abandoned | saved =>
      exact ⟨inner, resumed, fun _ _ _ tells => nomatch tells⟩
    | announced earlier | told earlier | returned earlier | idle earlier => simp [phase] at earlier
  | saved old new =>
    simp only [step, phase, announce]
    split
    · exact ⟨inner, resumed, fun _ _ _ tells => nomatch tells⟩
    · exact afterTelling_callsOnly inner resumed fun _ _ => tell_callsOnly only
  | telling answer reaction rest =>
    simp only [step, phase]
    exact afterTelling_callsOnly inner resumed fun _ _ => goOn_callsOnly only (telling answer reaction rest phase)
  | finished outcome =>
    simp only [step, phase]
    split
    · exact ⟨inner, resumed, telling⟩
    · rename_i outer waiting waits
      rw [waits] at inner resumed
      refine afterTelling_callsOnly (fun call member => inner call (List.mem_cons_of_mem _ member))
        (fun other member => resumed other (List.mem_cons_of_mem _ member)) fun _ _ => ?_
      exact goOn_callsOnly only (resumed outer (List.mem_cons_self ..) outcome)

end Step

section Frame

variable {service : Service L} {state after : State L} {task next : Task L}

/-- A step touches the books of no identity but that of its task, and those only with the lock or by taking
it. -/
theorem Moved.frame (moved : Moved service state task after next) {other : Identity}
    (untouched : other ≠ task.identity ∨ ¬ task.phase.Holds ∧ other ∈ state.locked) :
    after.account other = state.account other := by
  have apart (holds : task.phase.Holds) : other ≠ task.identity :=
    untouched.resolve_right fun free => free.1 holds
  have apartIfFree (free : task.identity ∉ state.locked) : other ≠ task.identity := by
    rintro rfl
    exact untouched.elim (fun different => different rfl) fun taken => free taken.2
  cases moved with
  | blocked | answered | loaded | idle => rfl
  | entered _ free | resumed _ free => exact account_lock (apartIfFree free)
  | queried loaded =>
    have different := apart (by rw [loaded]; trivial)
    rw [account_unlock different, account_remember different]
  | prepared loaded => exact account_remember (apart (by rw [loaded]; trivial))
  | abandoned unsaved =>
    exact account_unlock (apart (by rcases unsaved with loads | ⟨old, new, saves⟩ <;> simp [*, Phase.Holds]))
  | saved saves => exact account_write (apart (by rw [saves]; trivial))
  | announced saved books =>
    have different := apart (by rw [saved]; trivial)
    rw [books.account, account_unlock different, account_remember different]
  | told _ books | returned _ _ books => exact books.account other

/-- A task that comes to hold a lock works on its identity still, and had the lock or found it free. -/
theorem Moved.of_holds (moved : Moved service state task after next) (holds : next.phase.Holds) :
    next.identity = task.identity ∧ (task.phase.Holds ∨ task.identity ∉ state.locked) := by
  cases moved with
  | blocked | answered | queried | abandoned => cases holds
  | entered _ free | resumed _ free => exact ⟨rfl, .inr free⟩
  | loaded earlier | prepared earlier | saved earlier =>
    exact ⟨rfl, .inl (by rw [earlier]; trivial)⟩
  | announced _ _ continued | told _ _ continued | returned _ _ _ continued =>
    exact absurd holds continued.not_holds
  | idle ended => simp [ended, Phase.Holds] at holds

/-- A task that holds no lock after a step leaves that of its identity free, or some other task has it. -/
theorem Moved.of_not_holds (moved : Moved service state task after next) (free : ¬ next.phase.Holds)
    (taken : task.identity ∈ after.locked) : ¬ task.phase.Holds ∧ task.identity ∈ state.locked := by
  cases moved with
  | blocked waits | answered waits => exact ⟨waits.not_holds, taken⟩
  | entered | resumed | loaded | prepared | saved => exact absurd trivial free
  | queried | abandoned => simp [unlock] at taken
  | announced _ books => simp [books.locked, unlock] at taken
  | told tells books => exact ⟨by simp [tells, Phase.Holds], books.locked ▸ taken⟩
  | returned ended _ books => exact ⟨by simp [ended, Phase.Holds], books.locked ▸ taken⟩
  | idle ended => exact ⟨by simp [ended, Phase.Holds], taken⟩

end Frame

section World

variable [DecidableEq L] {service : Service L} {world : World L} {index : Nat} {outage : Outage}

/-- A step of a world is a move of the task whose turn it is. -/
theorem World.step_of_present (service : Service L) (outage : Outage) {task : Task L}
    (present : world.tasks[index]? = some task) :
    ∃ after next, Moved service world.state task after next ∧
      world.step service index outage = ⟨after, world.tasks.set index next⟩ :=
  ⟨_, _, moved_step service outage, by simp only [World.step, present]⟩

theorem World.step_of_absent (absent : world.tasks[index]? = none) :
    world.step service index outage = world := by
  simp only [World.step, absent]

theorem World.length_tasks_step : (world.step service index outage).tasks.length = world.tasks.length := by
  rw [World.step]
  split
  · rfl
  · exact List.length_set

theorem World.length_tasks_run {schedule : List (Nat × Outage)} :
    (world.run service schedule).tasks.length = world.tasks.length := by
  induction schedule generalizing world with
  | nil => rfl
  | cons turn rest ih => exact ih.trans World.length_tasks_step

theorem World.step_of_other {other : Nat} (different : other ≠ index) :
    (world.step service index outage).tasks[other]? = world.tasks[other]? := by
  cases present : world.tasks[index]? with
  | none => rw [step_of_absent present]
  | some task =>
    obtain ⟨after, next, -, becomes⟩ := step_of_present service outage present
    rw [becomes]
    simp [getElem?_set_of_some present, different]

end World

end Service

end Progression
