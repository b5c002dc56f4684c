import Progression.Proofs.Projection

namespace Progression

variable {L : Type}

namespace Service

/-- States that have the same in their books of one identity. -/
structure Alike (identity : Identity) (whole part : State L) : Prop where
  account : part.account identity = whole.account identity
  store : ∃ rows, part.store = { whole.store with rows }

theorem stored_of_account {identity : Identity} {whole part : State L}
    (same : part.account identity = whole.account identity) : part.stored identity = whole.stored identity :=
  congrArg Account.stored same

section Books

variable {identity : Identity} {whole part : State L} (alike : Alike identity whole part)

theorem Alike.of_books (alike : Alike identity whole part) {later also : State L} (books : SameBooks whole later)
    (part_books : SameBooks part also) : Alike identity later also := by
  refine ⟨?_, ?_⟩
  · rw [books.account, part_books.account, alike.account]
  · rw [books.store, part_books.store]
    exact alike.store

include alike

theorem Alike.known : part.cache.get? identity = whole.cache.get? identity := congrArg Account.known alike.account

theorem Alike.isLocked : isLocked part identity = Service.isLocked whole identity := by
  have locked : (identity ∈ part.locked) = (identity ∈ whole.locked) := congrArg Account.locked alike.account
  rw [Bool.eq_iff_iff, isLocked_iff, isLocked_iff, locked]

theorem Alike.lock : Alike identity (lock whole identity) (lock part identity) := by
  have same := alike.account
  refine ⟨?_, alike.store⟩
  simp only [State.account, Account.mk.injEq] at same
  simp [State.account, Service.lock, same]

theorem Alike.unlock : Alike identity (unlock whole identity) (unlock part identity) := by
  have same := alike.account
  refine ⟨?_, alike.store⟩
  simp only [State.account, Account.mk.injEq] at same
  simp [State.account, Service.unlock, same]

theorem Alike.remember (xp : Int) : Alike identity (remember whole identity xp) (remember part identity xp) := by
  have same := alike.account
  refine ⟨?_, alike.store⟩
  simp only [State.account, Account.mk.injEq] at same
  simp [State.account, Service.remember, same]

theorem Alike.write (xp : Int) : Alike identity (write whole identity xp) (write part identity xp) := by
  have same := alike.account
  obtain ⟨rows, store⟩ := alike.store
  refine ⟨?_, part.store.rows.put identity xp, ?_⟩
  · simp only [State.account, Account.mk.injEq] at same
    simp [State.account, Service.write, same]
  · simp [Service.write, store]

theorem Alike.store_load : part.store.load identity = whole.store.load identity := by
  obtain ⟨rows, store⟩ := alike.store
  have row : part.store.rows.get? identity = whole.store.rows.get? identity := congrArg Account.row alike.account
  rw [Store.load, Store.load, row, store]
  rfl

theorem Alike.store_save (xp : Int) : part.store.save identity xp
    = (whole.store.save identity xp).map fun _ => { part.store with rows := part.store.rows.put identity xp } := by
  obtain ⟨rows, store⟩ := alike.store
  rw [Store.save, Store.save, store]
  cases closed : whole.store.closed <;> cases intact : whole.store.intact <;>
    cases holds : whole.store.kind.holds xp <;> simp [Store.reach, closed, intact] <;> rfl

end Books

/-- The same step of a task in alike states. -/
structure SameStep (identity : Identity) (whole part : State L × Task L) : Prop where
  states : Alike identity whole.1 part.1
  task : part.2 = whole.2

section Steps

variable {service : Service L} {task : Task L} {whole part : State L} (alike : Alike task.identity whole part)

include alike

theorem Alike.abandon (fault : StoreFault) :
    SameStep task.identity (abandon whole task fault) (abandon part task fault) := ⟨alike.unlock, rfl⟩

theorem Alike.proceed (xp : Int) :
    SameStep task.identity (proceed service whole task xp) (proceed service part task xp) := by
  rw [Service.proceed, Service.proceed]
  split
  · exact ⟨alike.unlock, rfl⟩
  · exact ⟨alike, rfl⟩

theorem Alike.acquire : SameStep task.identity (acquire service whole task) (acquire service part task) := by
  have locked := alike.isLocked
  have known : (Service.lock part task.call.identity).cache.get? task.call.identity
      = (Service.lock whole task.call.identity).cache.get? task.call.identity := alike.lock.known
  rw [Task.identity] at locked
  rw [Service.acquire, Service.acquire, locked]
  split
  · exact ⟨alike, rfl⟩
  · dsimp only
    rw [known]
    split
    · exact Alike.proceed alike.lock _
    · exact ⟨alike.lock, rfl⟩

theorem Alike.begin : SameStep task.identity (begin service whole task) (begin service part task) := by
  have known := alike.known
  rw [Task.identity] at known
  rw [Service.begin, Service.begin, known]
  split
  · exact ⟨alike, rfl⟩
  · exact alike.acquire

theorem Alike.load (outage : Outage) :
    SameStep task.identity (Service.load outage whole task) (Service.load outage part task) := by
  have loads := alike.store_load
  rw [Task.identity] at loads
  rw [Service.load, Service.load, loads]
  split
  · exact alike.abandon _
  · split
    · exact alike.abandon _
    · exact ⟨alike, rfl⟩

theorem Alike.save (outage : Outage) (old new : Int) :
    SameStep task.identity (Service.save outage whole task old new) (Service.save outage part task old new) := by
  have saves := alike.store_save new
  rw [Task.identity] at saves
  rw [Service.save, Service.save, saves]
  split
  · exact alike.abandon _
  · cases saved : whole.store.save task.call.identity new with
    | error fault => exact alike.abandon fault
    | ok store =>
      have written : store = { whole.store with rows := whole.store.rows.put task.call.identity new } := by
        rw [Store.save, bind_eq_ok] at saved
        obtain ⟨_, _, saved⟩ := saved
        split at saved
        · cases saved
          rfl
        · cases saved
      subst written
      exact ⟨alike.write new, rfl⟩

/-- A call that has still nothing to tell takes the same step in alike states. -/
theorem Alike.step [DecidableEq L] (opened : task.phase.Open) (outage : Outage) :
    SameStep task.identity (step service outage whole task) (step service outage part task) := by
  cases phase : task.phase with
  | fresh =>
    simp only [Service.step, phase]
    exact alike.begin
  | queued =>
    simp only [Service.step, phase]
    exact alike.acquire
  | loading =>
    simp only [Service.step, phase]
    exact alike.load outage
  | loaded xp =>
    simp only [Service.step, phase]
    exact Alike.proceed (alike.remember xp) xp
  | saving old new =>
    simp only [Service.step, phase]
    exact alike.save outage old new
  | saved | telling | finished => simp [phase, Phase.Open] at opened

end Steps

section Mute

variable {service : Service L} {state after : State L} {task next : Task L}

theorem alone_of_mute (mute : task.CallsOnly fun _ => False) : task.waiting = [] := by
  by_contra waits
  obtain ⟨outer, rest, waiting⟩ := List.exists_cons_of_ne_nil waits
  refine mute.calls task.call ?_
  rw [waiting]
  exact .head _

theorem Moved.call_eq (moved : Moved service state task after next) (alone : task.waiting = [])
    (still : next.waiting = []) : next.call = task.call := by
  have continued_call {answer : Answer} {from_task : Task L} (continued : Continued answer from_task next) :
      next.call = from_task.call := by
    cases continued with
    | finished | telling => rfl
    | calling => exact absurd still (List.cons_ne_nil _ _)
  cases moved with
  | announced _ _ continued | told _ _ continued => exact continued_call continued
  | returned _ waits => exact absurd (alone.symm.trans waits) (List.cons_ne_nil _ _).symm
  | blocked | answered | entered | resumed | loaded | queried | prepared | abandoned | saved | idle => rfl

theorem Moved.store_rows (moved : Moved service state task after next) :
    ∃ rows, after.store = { state.store with rows } := by
  rcases moved.saves with ⟨-, same⟩ | ⟨old, new, -, -, rfl⟩
  · exact ⟨_, same⟩
  · exact ⟨_, rfl⟩

theorem Alike.foreign {identity : Identity} {whole part : State L} (alike : Alike identity whole part)
    (moved : Moved service whole task after next) (foreign : task.identity ≠ identity) : Alike identity after part := by
  obtain ⟨rows, same⟩ := moved.store_rows
  obtain ⟨part_rows, store⟩ := alike.store
  refine ⟨?_, part_rows, ?_⟩
  · rw [moved.frame (.inl foreign.symm), alike.account]
  · rw [store, same]

variable [DecidableEq L] (mute : ∀ told listener notice, (service.react told listener notice).CallsOnly fun _ => False)

include mute

theorem call_step (own : task.CallsOnly fun _ => False) (outage : Outage) :
    (step service outage state task).2.call = task.call := by
  have moved : Moved service state task _ _ := moved_step service outage
  exact moved.call_eq (alone_of_mute own) (alone_of_mute (step_callsOnly service outage mute own))

end Mute

end Service

/-- A call as it stands apart from its listeners: with its answer settled, it is over. -/
def Task.settled (task : Task L) : Task L :=
  match task.phase with
  | .telling answer _ _ => { task with phase := .finished (.ok answer) }
  | _ => task

/-- Whether a call has nothing left to do but to let its listeners go on. -/
def Phase.Done : Phase L → Prop
  | .telling _ _ _ | .finished _ => True
  | _ => False

namespace Phase

theorem open_or_saved_or_done (phase : Phase L) : phase.Open ∨ (∃ old new, phase = .saved old new) ∨ phase.Done := by
  cases phase with
  | fresh | queued | loading | loaded | saving => exact .inl trivial
  | saved old new => exact .inr (.inl ⟨old, new, rfl⟩)
  | telling | finished => exact .inr (.inr trivial)

theorem Done.unsaved {phase : Phase L} (done : phase.Done) (old new : Int) : phase ≠ .saved old new := by
  rintro rfl
  exact done

theorem Waits.not_done {phase : Phase L} (waits : phase.Waits) : ¬ phase.Done := by
  cases phase <;> simp_all [Waits, Done]

end Phase

namespace Service

section Settled

variable {service : Service L} {state whole part : State L} {task other next : Task L} {answer : Answer}

theorem Continued.settled (continued : Continued answer task next) (alone : next.waiting = []) :
    next.settled = { task with phase := .finished (.ok answer) } := by
  cases continued with
  | finished | telling => rfl
  | calling => exact absurd alone (List.cons_ne_nil _ _)

theorem eq_or_done_of_settled (same : task.settled = other.settled) :
    other = task ∨ task.phase.Done ∧ other.phase.Done := by
  obtain ⟨call, phase, waiting⟩ := task
  obtain ⟨other_call, other_phase, other_waiting⟩ := other
  cases phase <;> cases other_phase <;> simp_all [Task.settled, Phase.Done]

variable [DecidableEq L] (mute : ∀ told listener notice, (service.react told listener notice).CallsOnly fun _ => False)

include mute

/-- A call that is done stands as it did after each further step, and touches no books. -/
theorem settled_of_done (state : State L) (own : task.CallsOnly fun _ => False) (done : task.phase.Done)
    (outage : Outage) :
    SameBooks state (step service outage state task).1 ∧ (step service outage state task).2.settled = task.settled := by
  have moved : Moved service state task _ _ := moved_step service outage
  have alone := alone_of_mute own
  have still : (step service outage state task).2.waiting = [] :=
    alone_of_mute (step_callsOnly service outage mute own)
  generalize (step service outage state task).1 = after, (step service outage state task).2 = next at moved still ⊢
  cases moved with
  | told tells books continued =>
    refine ⟨books, ?_⟩
    rw [continued.settled still, Task.settled, tells]
  | idle => exact ⟨.refl _, rfl⟩
  | returned _ waits => exact absurd (alone.symm.trans waits) (List.cons_ne_nil _ _).symm
  | blocked waits | answered waits | entered waits | resumed waits => exact absurd done waits.not_done
  | loaded earlier | queried earlier | prepared earlier | saved earlier | announced earlier =>
    simp [earlier, Phase.Done] at done
  | abandoned unsaved => rcases unsaved with loads | ⟨old, new, saves⟩ <;> simp_all [Phase.Done]

/-- A call whose change is saved comes to the same answer, whatever its listeners do. -/
theorem settled_of_saved (own : task.CallsOnly fun _ => False) {old new : Int} (saved : task.phase = .saved old new)
    (alike : Alike task.identity whole part) (outage : Outage) :
    Alike task.identity (step service outage whole task).1 (step service outage part task).1 ∧
      (step service outage whole task).2.settled = (step service outage part task).2.settled := by
  have still (state : State L) : (step service outage state task).2.waiting = [] :=
    alone_of_mute (step_callsOnly service outage mute own)
  cases request : task.call.request with
  | ask query =>
    simp only [step, saved, announce, request]
    exact ⟨(alike.remember new).unlock, trivial⟩
  | change mutation =>
    have becomes (state : State L) : ∃ after next, step service outage state task = (after, next) ∧
        SameBooks (unlock (remember state task.identity new) task.identity) after ∧
        Continued (mutation.answer service.formula new) task next := by
      obtain ⟨same, continued⟩ := afterTelling_continued task (mutation.answer service.formula new)
        (tell service (unlock (remember state task.identity new) task.identity)
          (mutation.notices service.formula task.identity old new))
      refine ⟨_, _, ?_, same ▸ tell_books .., continued⟩
      simp only [step, saved, announce, request]
      rfl
    obtain ⟨after, next, step, books, continued⟩ := becomes whole
    obtain ⟨part_after, part_next, part_step, part_books, part_continued⟩ := becomes part
    have alone := still whole
    have part_alone := still part
    rw [step] at alone
    rw [part_step] at part_alone
    rw [step, part_step]
    exact ⟨Alike.of_books (alike.remember new).unlock books part_books,
      (continued.settled alone).trans (part_continued.settled part_alone).symm⟩

/-- Apart from its listeners, a run does the same for an identity as its projection. -/
theorem projects_settled (identity : Identity) :
    Projects service identity (Alike identity) (fun task => task.CallsOnly fun _ => False) Task.settled where
  own := by
    intro whole part task other outage alike own also about same
    subst about
    rcases eq_or_done_of_settled same with rfl | ⟨done, other_done⟩
    · rcases other.phase.open_or_saved_or_done with opened | ⟨old, new, saved⟩ | done
      · obtain ⟨states, next⟩ : SameStep _ (step service outage whole other) (step service outage part other) :=
          alike.step opened outage
        exact ⟨states, congrArg Task.settled next.symm⟩
      · exact settled_of_saved mute own saved alike outage
      · obtain ⟨books, stands⟩ := settled_of_done mute whole own done outage
        obtain ⟨part_books, also_stands⟩ := settled_of_done mute part own done outage
        exact ⟨alike.of_books books part_books, stands.trans also_stands.symm⟩
    · obtain ⟨books, stands⟩ := settled_of_done mute whole own done outage
      obtain ⟨part_books, also_stands⟩ := settled_of_done mute part also other_done outage
      exact ⟨alike.of_books books part_books, (stands.trans same).trans also_stands.symm⟩
  foreign := fun outage alike _ foreign => alike.foreign (moved_step service outage) foreign
  announces := by
    intro task other same
    rcases eq_or_done_of_settled same with rfl | ⟨done, other_done⟩
    · rfl
    · rw [Task.announced_of_quiet done.unsaved, Task.announced_of_quiet other_done.unsaved]
  stays := fun state _ outage own => ⟨step_callsOnly service outage mute own, call_step mute own outage⟩

end Settled

end Service

end Progression
