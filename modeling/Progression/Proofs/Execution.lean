import Progression.Proofs.Isolation
import Progression.Proofs.Mirror

/-!
A call that nothing disturbs. If the lock of its identity is free, what is known is what the store has, and the store
serves it, a call takes at most five steps up to its answer. A change is saved and known by then, and the lock is free
again; only then are listeners told of it.
-/

namespace Progression

variable {L : Type}

theorem StoreKind.holds_clampXp (kind : StoreKind) (xp : Int) : kind.holds (clampXp xp) = true := by
  cases kind with
  | memory => rfl
  | durable =>
    have inside : 0 ≤ clampXp xp ∧ clampXp xp ≤ maxXp := clampXp_mem
    have top : maxXp = 0x7fffffffffffffff := rfl
    simp only [StoreKind.holds, Bool.and_eq_true, decide_eq_true_eq]
    omega

namespace Service

/-- Save XP and make it known. -/
def enter (state : State L) (identity : Identity) (xp : Int) : State L := remember (write state identity xp) identity xp

/-- A state in which nothing disturbs a call about an identity. -/
structure State.Serves (state : State L) (identity : Identity) : Prop where
  free : identity ∉ state.locked
  agrees : ∀ xp, state.cache.get? identity = some xp → xp = state.stored identity
  ready : state.store.Ready

theorem State.Settled.serves {state : State L} (settled : state.Settled) (ready : state.store.Ready)
    (identity : Identity) : state.Serves identity :=
  ⟨settled.free ▸ List.not_mem_nil, settled.agrees identity, ready⟩

section Books

variable {state : State L} {identity : Identity} {old new : Int}

theorem unlock_enter_lock (free : identity ∉ state.locked) :
    unlock (remember (write (lock state identity) identity new) identity new) identity = enter state identity new := by
  have free_still : identity ∉ (enter state identity new).locked := free
  exact unlock_lock free_still

/-- What was loaded before a change is known no more. -/
theorem unlock_enter_remember (free : identity ∉ state.locked) :
    unlock (remember (write (remember (lock state identity) identity old) identity new) identity new) identity
      = enter state identity new := by
  rw [← unlock_enter_lock free]
  simp only [remember, write, Entries.put_put]

theorem account_enter {other : Identity} (different : other ≠ identity) :
    (enter state identity new).account other = state.account other := by
  rw [enter, account_remember different, account_write different]

theorem account_enter_self :
    (enter state identity new).account identity = ⟨some new, some new, identity ∈ state.locked⟩ := by
  simp [State.account, enter, remember, write]

@[simp] theorem stored_enter : (enter state identity new).stored identity = new := by
  simp [State.stored, enter, remember, write]

end Books

variable [DecidableEq L] {service : Service L} {state : State L}

section Steps

variable {call : Call}

theorem steps_succ {outage : Outage} {after : State L} {task next : Task L}
    (stepped : step service outage state task = (after, next)) (count : Nat) :
    steps service outage (count + 1) state task = steps service outage count after next := by
  cases returns : task.outcome? with
  | some outcome =>
    cases stepped.symm.trans (step_of_outcome returns outage)
    rw [steps_of_outcome returns, steps_of_outcome returns]
  | none =>
    rw [steps.eq_def]
    simp only [returns, stepped]

theorem steps_step (outage : Outage) (count : Nat) (state : State L) (task : Task L) :
    steps service outage (count + 1) state task
      = steps service outage count (step service outage state task).1 (step service outage state task).2 :=
  steps_succ rfl count

theorem steps_add (outage : Outage) (first count : Nat) (state : State L) (task : Task L) :
    steps service outage (first + count) state task
      = steps service outage count (steps service outage first state task).1 (steps service outage first state task).2 := by
  induction first generalizing state task with
  | zero => rw [Nat.zero_add]; rfl
  | succ first ih => rw [Nat.succ_add, steps_step, steps_step, ih]

theorem steps_of_over {outage : Outage} {few count : Nat} (enough : few ≤ count) {after : State L} {task final : Task L}
    (ran : steps service outage few state task = (after, final)) {outcome : Outcome}
    (returns : final.outcome? = some outcome) : steps service outage count state task = (after, final) := by
  obtain ⟨more, rfl⟩ := Nat.exists_eq_add_of_le enough
  rw [steps_add, ran]
  exact steps_of_outcome returns outage more

/-- Who has time enough to come to the end has so after some steps. -/
theorem steps_after {outage : Outage} {limit : Nat} {task : Task L} {outcome : Outcome}
    (returns : (steps service outage limit state task).2.outcome? = some outcome) (count : Nat) :
    steps service outage limit (steps service outage count state task).1 (steps service outage count state task).2
      = steps service outage limit state task := by
  rw [← steps_add, Nat.add_comm, steps_add, steps_of_outcome returns]

theorem perform_of_steps {outage : Outage} {few limit : Nat} (enough : few ≤ limit) {after : State L} {task : Task L}
    (ran : steps service outage few state ⟨call, .fresh, []⟩ = (after, task)) {outcome : Outcome}
    (returns : task.outcome? = some outcome) : service.perform outage limit state call = (after, some outcome) := by
  have ends : steps service outage limit state { call } = (after, task) := steps_of_over enough ran returns
  simp only [perform, ends, returns]

/-- How many steps there is time for does not matter to a call that comes to its end. -/
theorem perform_of_over {outage : Outage} {few limit : Nat} (enough : few ≤ limit)
    (returns : (service.perform outage few state call).2 ≠ none) :
    service.perform outage limit state call = service.perform outage few state call := by
  obtain ⟨outcome, ended⟩ := Option.ne_none_iff_exists'.1 returns
  have final : (steps service outage few state ⟨call, .fresh, []⟩).2.outcome? = some outcome := ended
  rw [perform_of_steps enough rfl final, ← ended]
  rfl

end Steps

section Underway

variable {base : State L} {call : Call} {phase : Phase L} {waiting : List (Waiting L)}

/-- Where a call stands that nothing disturbs, before it is answered: up to what it has come to, with the state that it
began in. -/
inductive Underway (service : Service L) (base : State L) (call : Call) : State L → Phase L → Prop where
  | fresh : Underway service base call base .fresh
  | loading (unknown : base.cache.get? call.identity = none) :
    Underway service base call (lock base call.identity) .loading
  | loaded (unknown : base.cache.get? call.identity = none) :
    Underway service base call (lock base call.identity) (.loaded (base.stored call.identity))
  | saving {mutation : Mutation} {state : State L} (changes : call.request = .change mutation)
    (store : state.store = base.store) (locked : state.locked = call.identity :: base.locked)
    (enters : ∀ new, unlock (remember (write state call.identity new) call.identity new) call.identity
      = enter base call.identity new) :
    Underway service base call state
      (.saving (base.stored call.identity) (mutation.apply service.formula (base.stored call.identity)))
  | saved {mutation : Mutation} {state : State L} {new : Int} (changes : call.request = .change mutation)
    (new_eq : new = mutation.apply service.formula (base.stored call.identity))
    (locked : state.locked = call.identity :: base.locked)
    (enters : unlock (remember state call.identity new) call.identity = enter base call.identity new) :
    Underway service base call state (.saved (base.stored call.identity) new)

/-- What a call comes to that nothing disturbs. A query is answered, and makes known what the store has; a change is saved
and known, the lock is free again, and only then are listeners told of it. -/
def answered (service : Service L) (base : State L) (call : Call) (waiting : List (Waiting L)) : State L × Task L :=
  let xp := base.stored call.identity
  match call.request with
  | .ask query =>
    (if base.cache.get? call.identity = none then remember base call.identity xp else base,
      ⟨call, .finished (.ok (query.answer service.formula service.ranks xp)), waiting⟩)
  | .change mutation =>
    let new := mutation.apply service.formula xp
    afterTelling ⟨call, .fresh, waiting⟩ (mutation.answer service.formula new)
      (tell service (enter base call.identity new) (mutation.notices service.formula call.identity xp new))

omit [DecidableEq L] in
theorem Underway.toGo_le (underway : Underway service base call state phase) : phase.toGo ≤ 5 ∧ 0 < phase.toGo := by
  cases underway <;> simp [Phase.toGo]

omit [DecidableEq L] in
/-- A call that has begun holds its lock, and nobody holds another one but who held it before. -/
theorem Underway.locked (underway : Underway service base call state phase) (begun : phase.toGo < 5) :
    phase.Holds ∧ state.locked = call.identity :: base.locked := by
  cases underway with
  | fresh => simp [Phase.toGo] at begun
  | loading | loaded => exact ⟨trivial, rfl⟩
  | saving _ _ locked => exact ⟨trivial, locked⟩
  | saved _ _ locked => exact ⟨trivial, locked⟩

variable (serves : base.Serves call.identity)

include serves

theorem step_fresh (waiting : List (Waiting L)) :
    (∃ after next, step service {} base ⟨call, .fresh, waiting⟩ = (after, ⟨call, next, waiting⟩) ∧
      Underway service base call after next ∧ next.toGo < 5) ∨
    step service {} base ⟨call, .fresh, waiting⟩ = answered service base call waiting := by
  have unlocked : isLocked base call.identity = false := by simpa [isLocked] using serves.free
  cases known : base.cache.get? call.identity with
  | none =>
    have unknown_still : (lock base call.identity).cache.get? call.identity = none := known
    refine .inl ⟨_, .loading, ?_, .loading known, by simp [Phase.toGo]⟩
    cases request : call.request <;> simp [step, begin, acquire, request, unlocked, known, unknown_still]
  | some xp =>
    have known_still : (lock base call.identity).cache.get? call.identity = some xp := known
    obtain rfl := serves.agrees xp known
    cases request : call.request with
    | ask query => exact .inr (by simp [step, begin, answered, request, known])
    | change mutation =>
      refine .inl ⟨lock base call.identity, _, ?_, .saving request rfl rfl fun new => unlock_enter_lock serves.free,
        by simp [Phase.toGo]⟩
      simp [step, begin, acquire, proceed, request, known, known_still, unlocked]

/-- The step lemma: a call that nothing disturbs comes nearer to its answer in each step, or is answered. -/
theorem Underway.step (underway : Underway service base call state phase) (waiting : List (Waiting L)) :
    (∃ after next, Service.step service {} state ⟨call, phase, waiting⟩ = (after, ⟨call, next, waiting⟩) ∧
      Underway service base call after next ∧ next.toGo < phase.toGo) ∨
    Service.step service {} state ⟨call, phase, waiting⟩ = answered service base call waiting := by
  cases underway with
  | fresh => exact step_fresh serves waiting
  | loading unknown =>
    have ready : (lock base call.identity).store.Ready := serves.ready
    refine .inl ⟨_, _, ?_, .loaded unknown, by simp [Phase.toGo]⟩
    simp only [Service.step, load, Store.load_of_ready ready]
    rfl
  | loaded unknown =>
    cases request : call.request with
    | ask query =>
      have free_still : call.identity ∉ (remember base call.identity (base.stored call.identity)).locked := serves.free
      have back : unlock (remember (lock base call.identity) call.identity (base.stored call.identity)) call.identity
          = remember base call.identity (base.stored call.identity) := unlock_lock free_still
      exact .inr (by simp [Service.step, proceed, answered, request, unknown, back])
    | change mutation =>
      refine .inl ⟨remember (lock base call.identity) call.identity (base.stored call.identity), _, ?_,
        .saving request rfl rfl fun new => unlock_enter_remember serves.free, by simp [Phase.toGo]⟩
      simp only [Service.step, proceed, request]
  | @saving mutation before changes store locked enters =>
    have ready : state.store.Ready := store ▸ serves.ready
    have holds : state.store.kind.holds (mutation.apply service.formula (base.stored call.identity)) = true :=
      StoreKind.holds_clampXp ..
    refine .inl ⟨_, _, ?_, .saved changes rfl ?_ (enters _), by simp [Phase.toGo]⟩
    · simp only [Service.step, save, Store.save_of_ready ready holds]
      rfl
    · exact locked
  | saved changes new_eq _ enters =>
    subst new_eq
    refine .inr ?_
    simp only [Service.step, announce, answered, changes, enters]
    exact @afterTelling_phase L ⟨call, .fresh, waiting⟩ _ _ _

/-- The run lemma, by induction on how far the call has to go. -/
theorem Underway.steps (underway : Underway service base call state phase) (waiting : List (Waiting L)) :
    ∃ count ≤ phase.toGo, Service.steps service {} count state ⟨call, phase, waiting⟩
      = answered service base call waiting := by
  induction left : phase.toGo using Nat.strong_induction_on generalizing state phase with
  | _ left_now ih =>
    subst left
    rcases underway.step serves waiting with ⟨after, next, stepped, later, nearer⟩ | ends
    · obtain ⟨count, few, ran⟩ := ih _ nearer later rfl
      exact ⟨count + 1, by omega, (steps_succ stepped count).trans ran⟩
    · exact ⟨1, underway.toGo_le.2, steps_succ ends 0⟩

end Underway

section Answers

variable {call : Call} {mutation : Mutation} {query : Query} (serves : state.Serves call.identity)

include serves

/-- Up to the telling, a change of XP takes at most five steps. Then it is saved and known. -/
theorem steps_of_change (changes : call.request = .change mutation) (waiting : List (Waiting L)) :
    let old := state.stored call.identity
    let new := mutation.apply service.formula old
    ∃ count ≤ 5, steps service {} count state ⟨call, .fresh, waiting⟩
      = afterTelling ⟨call, .fresh, waiting⟩ (mutation.answer service.formula new)
        (tell service (enter state call.identity new) (mutation.notices service.formula call.identity old new)) := by
  have ends : ∃ count ≤ 5, steps service {} count state ⟨call, .fresh, waiting⟩ = answered service state call waiting :=
    Underway.fresh.steps serves waiting
  simpa only [answered, changes] using ends

theorem steps_of_ask (asks : call.request = .ask query) (waiting : List (Waiting L)) :
    let xp := state.stored call.identity
    let after := if state.cache.get? call.identity = none then remember state call.identity xp else state
    ∃ count ≤ 5, steps service {} count state ⟨call, .fresh, waiting⟩
      = (after, ⟨call, .finished (.ok (query.answer service.formula service.ranks xp)), waiting⟩) := by
  have ends : ∃ count ≤ 5, steps service {} count state ⟨call, .fresh, waiting⟩ = answered service state call waiting :=
    Underway.fresh.steps serves waiting
  simpa only [answered, asks] using ends

end Answers

theorem ready_perform (ready : state.store.Ready) (outage : Outage) (limit : Nat) (call : Call) :
    (service.perform outage limit state call).1.store.Ready := by
  obtain ⟨task, ran, -⟩ : ∃ task, (World.begin state [call]).run service (List.replicate limit (0, outage))
      = ⟨(service.perform outage limit state call).1, [task]⟩ ∧ task.outcome? = _ := perform_eq_run outage limit state call
  obtain ⟨rows, store⟩ : ∃ rows, ((World.begin state [call]).run service (List.replicate limit (0, outage))).state.store
      = { state.store with rows } := World.store_run _ _
  rw [ran] at store
  have same : (service.perform outage limit state call).1.store = { state.store with rows } := store
  rw [same]
  exact ready

theorem State.Settled.perform (settled : state.Settled) {outage : Outage} {limit : Nat} {call : Call}
    (returns : (service.perform outage limit state call).2 ≠ none) : (service.perform outage limit state call).1.Settled := by
  obtain ⟨task, ran, outcome⟩ : ∃ task, (World.begin state [call]).run service (List.replicate limit (0, outage))
      = ⟨(service.perform outage limit state call).1, [task]⟩ ∧ task.outcome? = _ := perform_eq_run outage limit state call
  have consistent : Consistent service ⟨(service.perform outage limit state call).1, [task]⟩ :=
    ran ▸ (settled.consistent [call]).run _
  apply consistent.settled
  simpa [outcome] using returns

section Pledge

variable {answer : Answer} {task : Task L}

theorem steps_pledged (pledged : Pledged answer task) (outage : Outage) (count : Nat) (state : State L) :
    Pledged answer (steps service outage count state task).2 := by
  induction count generalizing state task with
  | zero => exact pledged
  | succ count ih =>
    have stepped : Pledged answer (step service outage state task).2 ∧ ∀ commit,
        task.commit? 0 (step service outage state task).2 = some commit → commit.depth ≠ 0 :=
      (moved_step service outage).pledged pledged
    rw [steps_step]
    exact ih stepped.1 _

omit [DecidableEq L] in
theorem Pledged.outcome? (pledged : Pledged answer task) {outcome : Outcome} (returns : task.outcome? = some outcome) :
    outcome = .ok answer := by
  obtain ⟨finished, alone⟩ := Task.outcome?_eq_some.1 returns
  simpa [Pledged, finished, alone] using pledged

/-- Whatever listeners do, a change that comes to its end is answered by the XP that it was to lead to. -/
theorem perform_of_change {call : Call} (serves : state.Serves call.identity) {mutation : Mutation}
    (changes : call.request = .change mutation) {limit : Nat} {outcome : Outcome}
    (returns : (service.perform {} limit state call).2 = some outcome) :
    outcome = .ok (mutation.answer service.formula (mutation.apply service.formula (state.stored call.identity))) := by
  let new := mutation.apply service.formula (state.stored call.identity)
  let told := tell service (enter state call.identity new)
    (mutation.notices service.formula call.identity (state.stored call.identity) new)
  obtain ⟨count, -, answered⟩ : ∃ count ≤ 5, steps service {} count state ⟨call, .fresh, []⟩
      = afterTelling ⟨call, .fresh, []⟩ (mutation.answer service.formula new) told := steps_of_change serves changes []
  have ended : (steps service {} limit state ⟨call, .fresh, []⟩).2.outcome? = some outcome := returns
  rw [← steps_after ended count, answered] at ended
  refine (steps_pledged ?_ {} limit _).outcome? ended
  exact (afterTelling_continued _ _ _).2.pledged (fun _ => rfl) (by simp)

end Pledge

section Rest

variable {identity : Identity} {task : Task L}

/-- Whether a task is past all changes of the XP of an identity. -/
def Rests (identity : Identity) (task : Task L) : Prop :=
  task.identity = identity → ¬ task.phase.Holds ∧ (task.phase.Waits → ∃ query, task.call.request = .ask query)

omit [DecidableEq L] in
theorem Continued.rests {answer : Answer} {next : Task L} (continued : Continued answer task next)
    (calls : next.CallsOnly (Call.LeavesAlone identity)) : Rests identity next := by
  intro own
  refine ⟨continued.not_holds, fun waits => ?_⟩
  cases continued with
  | finished | telling => cases waits
  | calling => exact calls.calls _ (List.mem_cons_self ..) own

omit [DecidableEq L] in
/-- The step lemma: what is known and free stays as it is. -/
theorem Moved.rests {after : State L} {next : Task L} (moved : Moved service state task after next)
    (calls : next.CallsOnly (Call.LeavesAlone identity)) (known : (state.cache.get? identity).isSome)
    (free : identity ∉ state.locked) (rests : Rests identity task) :
    after.account identity = state.account identity ∧ Rests identity next := by
  by_cases own : task.identity = identity
  · subst own
    obtain ⟨unheld, asks⟩ := rests rfl
    cases moved with
    | blocked _ taken => exact absurd taken free
    | answered => exact ⟨rfl, fun _ => ⟨id, nofun⟩⟩
    | entered _ _ unknown => simp [unknown] at known
    | resumed waits _ changes =>
      obtain ⟨query, asks⟩ := asks waits
      cases asks.symm.trans changes
    | loaded earlier | queried earlier | prepared earlier | saved earlier | announced earlier =>
      simp [earlier, Phase.Holds] at unheld
    | abandoned unsaved =>
      rcases unsaved with loads | ⟨old, new, saves⟩ <;> simp_all [Phase.Holds]
    | told _ books continued | returned _ _ books continued => exact ⟨books.account _, continued.rests calls⟩
    | idle => exact ⟨rfl, rests⟩
  · refine ⟨moved.frame (.inl (Ne.symm own)), ?_⟩
    cases moved with
    | blocked | answered | entered | resumed | loaded | queried | prepared | abandoned | saved =>
      exact fun same => absurd same own
    | announced _ _ continued | told _ _ continued | returned _ _ _ continued => exact continued.rests calls
    | idle => exact rests

/-- A step of a task that is past all changes of the XP of an identity tells a listener nothing of it but what it was
about to tell. -/
theorem step_silent {observer : L} {often : Topic → Nat}
    (spares : ∀ told listener notice, (service.react told listener notice).Spares observer)
    (registered : state.channels.registrations observer = often) (own : task.Spares observer)
    (rests : Rests identity task) (outage : Outage) :
    noticesAbout identity (heard observer (step service outage state task).1.deliveries
        ++ (step service outage state task).2.pending observer often)
      = noticesAbout identity (heard observer state.deliveries ++ task.pending observer often) := by
  have nothing : task.due identity 0 = [] := by
    by_contra due
    obtain ⟨holds, same⟩ := holds_of_due due
    exact (rests same).1 holds
  have outermost : ∀ commit ∈ task.due identity 0, commit.depth = 0 := by simp [nothing]
  rw [about_told spares registered own outermost outage, nothing]
  simp

section Runs

variable (spared : ∀ told listener notice, (service.react told listener notice).CallsOnly (Call.LeavesAlone identity))
  (calls : task.CallsOnly (Call.LeavesAlone identity)) (rests : Rests identity task)
  (known : (state.cache.get? identity).isSome) (free : identity ∉ state.locked) (outage : Outage)

include spared calls rests known free

theorem step_rests :
    (step service outage state task).2.CallsOnly (Call.LeavesAlone identity) ∧
    Rests identity (step service outage state task).2 ∧
    (step service outage state task).1.account identity = state.account identity ∧
    ((step service outage state task).1.cache.get? identity).isSome ∧
    identity ∉ (step service outage state task).1.locked := by
  have still : (step service outage state task).2.CallsOnly (Call.LeavesAlone identity) :=
    step_callsOnly service outage spared calls
  obtain ⟨account, rests⟩ := (moved_step service outage).rests still known free rests
  have cached : (step service outage state task).1.cache.get? identity = state.cache.get? identity :=
    congrArg Account.known account
  have locked : (identity ∈ (step service outage state task).1.locked) = (identity ∈ state.locked) :=
    congrArg Account.locked account
  rw [cached, locked]
  exact ⟨still, rests, account, known, free⟩

theorem account_steps_of_rests (count : Nat) :
    (steps service outage count state task).1.account identity = state.account identity := by
  induction count generalizing state task with
  | zero => rfl
  | succ count ih =>
    obtain ⟨calls, rests, account, known, free⟩ := step_rests spared calls rests known free outage
    rw [steps_step, ih calls rests known free, account]

theorem noticesAbout_steps_of_rests {observer : L} {often : Topic → Nat}
    (spares : ∀ told listener notice, (service.react told listener notice).Spares observer)
    (registered : state.channels.registrations observer = often) (own : task.Spares observer) (count : Nat) :
    (steps service outage count state task).1.channels.registrations observer = often ∧
    noticesAbout identity (heard observer (steps service outage count state task).1.deliveries
        ++ (steps service outage count state task).2.pending observer often)
      = noticesAbout identity (heard observer state.deliveries ++ task.pending observer often) := by
  induction count generalizing state task with
  | zero => exact ⟨registered, rfl⟩
  | succ count ih =>
    have silent := step_silent spares registered own rests outage
    obtain ⟨told, own⟩ := step_told spares registered own 0 outage
    obtain ⟨calls, rests, -, known, free⟩ := step_rests spared calls rests known free outage
    obtain ⟨registered, later⟩ := ih calls rests known free (told.registrations.trans registered) own
    rw [steps_step]
    exact ⟨registered, later.trans silent⟩

end Runs

section Alone

variable {call : Call} {mutation : Mutation}

omit [DecidableEq L] in
theorem noticesAbout_notices {old new : Int} :
    noticesAbout identity (mutation.notices service.formula identity old new)
      = mutation.notices service.formula identity old new := by
  refine List.filter_eq_self.2 fun notice member => ?_
  simpa using Mutation.identity_of_mem_notices member

/-- A change that begins to tell is known and stored, and its task is past all changes of the XP of the identity. -/
theorem rests_told (free : call.identity ∉ state.locked)
    (spared : ∀ told listener notice, (service.react told listener notice).CallsOnly (Call.LeavesAlone call.identity))
    (new : Int) (notices : List Notice) (answer : Answer) :
    let answered := afterTelling { call } answer (tell service (enter state call.identity new) notices)
    answered.2.CallsOnly (Call.LeavesAlone call.identity) ∧
    Rests call.identity answered.2 ∧
    answered.1.account call.identity = ⟨some new, some new, call.identity ∈ state.locked⟩ ∧
    (answered.1.cache.get? call.identity).isSome ∧
    call.identity ∉ answered.1.locked := by
  intro answered
  let entered := enter state call.identity new
  obtain ⟨state_eq, continued⟩ := afterTelling_continued { call } answer (tell service entered notices)
  have books : SameBooks entered answered.1 := state_eq ▸ tell_books entered notices
  have account : answered.1.account call.identity = ⟨some new, some new, call.identity ∈ state.locked⟩ :=
    (books.account _).trans account_enter_self
  have cached : answered.1.cache.get? call.identity = some new := congrArg Account.known account
  have calls : answered.2.CallsOnly (Call.LeavesAlone call.identity) :=
    afterTelling_callsOnly (by simp) (by simp) fun _ _ => tell_callsOnly spared
  exact ⟨calls, continued.rests calls, account, by simp [cached], books.locked ▸ free⟩

/-- If listeners leave the XP of an identity alone, a change of it that has come to its end is what is known and stored,
and each listener whose registrations the others leave alone was told of it as often as it is registered. -/
theorem perform_of_change_alone (serves : state.Serves call.identity) (changes : call.request = .change mutation)
    (spared : ∀ told listener notice, (service.react told listener notice).CallsOnly (Call.LeavesAlone call.identity))
    {limit : Nat} (returns : (service.perform {} limit state call).2 ≠ none) :
    let old := state.stored call.identity
    let new := mutation.apply service.formula old
    let after := (service.perform {} limit state call).1
    after.account call.identity = ⟨some new, some new, call.identity ∈ state.locked⟩ ∧
    ∀ observer, (∀ told listener notice, (service.react told listener notice).Spares observer) →
      after.channels.registrations observer = state.channels.registrations observer ∧
      noticesAbout call.identity (heard observer after.deliveries)
        = noticesAbout call.identity (heard observer state.deliveries)
          ++ copies (state.channels.registrations observer) (mutation.notices service.formula call.identity old new) := by
  intro old new after
  let fresh : Task L := { call }
  let entered := enter state call.identity new
  let notices := mutation.notices service.formula call.identity old new
  let answer := mutation.answer service.formula new
  let answered := afterTelling fresh answer (tell service entered notices)
  obtain ⟨count, -, told⟩ : ∃ count ≤ 5, steps service {} count state fresh = answered := steps_of_change serves changes []
  obtain ⟨outcome, ended⟩ := Option.ne_none_iff_exists'.1 returns
  have longer : steps service {} limit answered.1 answered.2 = steps service {} limit state fresh := by
    rw [← told]
    exact steps_after ended count
  obtain ⟨calls, rests, account, known, free⟩ :
      answered.2.CallsOnly (Call.LeavesAlone call.identity) ∧ Rests call.identity answered.2 ∧
        answered.1.account call.identity = ⟨some new, some new, call.identity ∈ state.locked⟩ ∧ _ :=
    rests_told serves.free spared new notices answer
  have ends : after = (steps service {} limit answered.1 answered.2).1 := congrArg Prod.fst longer.symm
  refine ⟨?_, fun observer spares => ?_⟩
  · rw [ends, account_steps_of_rests spared calls rests known free {} limit, account]
  · let often := state.channels.registrations observer
    have hears : Told observer entered (copies often notices) (tell service entered notices).1
        (restOf observer often (tell service entered notices).2) := tell_told spares rfl
    have delivered := afterTelling_told fresh answer hears
    have own : answered.2.Spares observer :=
      afterTelling_spares (by simp [fresh]) fun _ _ => tell_spares spares
    have kept : answered.1.channels.registrations observer = often := delivered.registrations
    obtain ⟨registered, silent⟩ := noticesAbout_steps_of_rests spared calls rests known free {} spares kept own limit
    have nothing : (steps service {} limit state fresh).2.pending observer often = [] := pending_of_over returns
    rw [longer] at registered silent
    refine ⟨registered, ?_⟩
    rw [nothing, List.append_nil, delivered.heard, List.flatMap_nil, List.append_nil, noticesAbout_append,
      noticesAbout_copies, noticesAbout_notices] at silent
    exact silent

end Alone

end Rest

end Service

end Progression
