import Mathlib.Algebra.Order.BigOperators.Group.List
import Mathlib.Data.Option.Basic
import Progression.Proofs.Coherence

/-!
The changes that calls save, in the order in which they save them. Each goes on from where the one before
ended, so that no change is lost; the store has the XP after the last one, and each call that returns has saved
its change once.
-/

namespace Progression

variable {L : Type}

/-- A change that was saved: by which task, for how many calls that waited, and the XP before and after. -/
structure Commit where
  task : Nat
  depth : Nat
  identity : Identity
  mutation : Mutation
  old : Int
  new : Int
  deriving DecidableEq, Repr

/-- The change that a task saves in a step, if it saves one. -/
def Task.commit? (index : Nat) (task next : Task L) : Option Commit :=
  match task.call.request, task.phase, next.phase with
  | .change mutation, .saving old new, .saved _ _ =>
    some ⟨index, task.waiting.length, task.identity, mutation, old, new⟩
  | _, _, _ => none

/-- What a change adds; nothing, unless it adds XP. -/
def Mutation.gain : Mutation → Int
  | .addXp amount => amount
  | _ => 0

namespace Commit

/-- Each change goes on from the XP that the one before led to, and leads to its target within the range. -/
def Chained (formula : Formula) : Int → List Commit → Prop
  | _, [] => True
  | xp, commit :: rest =>
    commit.old = xp ∧ commit.new = clampXp (commit.mutation.target formula xp) ∧ Chained formula commit.new rest

/-- The XP after changes that were saved one after another. -/
def last (start : Int) (log : List Commit) : Int := log.foldl (fun _ commit => commit.new) start

/-- The changes of one identity. -/
def about (identity : Identity) (log : List Commit) : List Commit :=
  log.filter fun commit => commit.identity = identity

/-- The changes of the call that a task began with. -/
def outermost (index : Nat) (log : List Commit) : List Commit :=
  log.filter fun commit => commit.task = index ∧ commit.depth = 0

/-- What a call that was to make a change led to, by a log: with the change saved once its answer, and a fault with
no change saved. -/
def Accounts (formula : Formula) (index : Nat) (identity : Identity) (mutation : Mutation) (log : List Commit) :
    Outcome → Prop
  | .ok answer => ∃ old new, outermost index log = [⟨index, 0, identity, mutation, old, new⟩] ∧
      answer = mutation.answer formula new
  | .error _ => outermost index log = []

theorem mem_about {identity : Identity} {log : List Commit} {commit : Commit} :
    commit ∈ about identity log ↔ commit ∈ log ∧ commit.identity = identity := by
  rw [about, List.mem_filter, decide_eq_true_eq]

theorem outermost_about {index : Nat} {identity : Identity} {log : List Commit} :
    outermost index (about identity log) = about identity (outermost index log) := by
  simp only [outermost, about, List.filter_filter, Bool.and_comm]

theorem accounts_about {formula : Formula} {index : Nat} {identity : Identity} {mutation : Mutation}
    {log : List Commit} {outcome : Outcome}
    (accounts : Accounts formula index identity mutation log outcome) :
    Accounts formula index identity mutation (about identity log) outcome := by
  cases outcome with
  | error fault =>
    rw [Accounts, outermost_about, accounts]
    rfl
  | ok answer =>
    obtain ⟨old, new, only, answers⟩ := accounts
    refine ⟨old, new, ?_, answers⟩
    rw [outermost_about, only]
    simp [about]

theorem perm_range_of_once {log : List Commit} {size : Nat} (within : ∀ commit ∈ log, commit.task < size)
    (once : ∀ index < size, ∃ commit, log.filter (fun commit => commit.task = index) = [commit]) :
    (log.map Commit.task).Perm (List.range size) := by
  rw [List.perm_ext_iff_of_nodup _ List.nodup_range]
  · intro index
    rw [List.mem_range, List.mem_map]
    refine ⟨fun ⟨commit, member, same⟩ => same ▸ within commit member, fun inside => ?_⟩
    obtain ⟨commit, only⟩ := once index inside
    have member : commit ∈ log.filter (fun commit => commit.task = index) := only ▸ .head _
    rw [List.mem_filter, decide_eq_true_eq] at member
    exact ⟨commit, member⟩
  · rw [List.nodup_iff_count_le_one]
    intro index
    rw [List.count, List.countP_map, List.countP_eq_length_filter]
    have same : log.filter ((· == index) ∘ Commit.task) = log.filter fun commit => commit.task = index := rfl
    rw [same]
    by_cases inside : index < size
    · obtain ⟨commit, only⟩ := once index inside
      rw [only, List.length_singleton]
    · rw [List.filter_eq_nil_iff.2 fun commit member => ?_]
      · exact Nat.zero_le 1
      · have below := within commit member
        rw [decide_eq_true_eq]
        omega

/-- A log with one change of each call is an order of all calls' changes. -/
theorem perm_of_once {log : List Commit} {changes : List Mutation}
    (within : ∀ commit ∈ log, commit.task < changes.length)
    (once : ∀ index mutation, changes[index]? = some mutation →
      ∃ commit, log.filter (fun commit => commit.task = index) = [commit] ∧ commit.mutation = mutation) :
    (log.map Commit.mutation).Perm changes := by
  have single (index : Nat) (inside : index < changes.length) :
      ∃ commit, log.filter (fun commit => commit.task = index) = [commit] ∧ commit.mutation = changes[index] :=
    once index changes[index] (List.getElem?_eq_getElem inside)
  have tasks : (log.map Commit.task).Perm (List.range changes.length) :=
    perm_range_of_once within fun index inside => (single index inside).imp fun _ => And.left
  have named : (log.map Commit.task).map (changes[·]?) = (log.map Commit.mutation).map some := by
    rw [List.map_map, List.map_map]
    refine List.map_congr_left fun commit member => ?_
    obtain ⟨other, only, same⟩ := single commit.task (within commit member)
    have alone : commit ∈ log.filter (fun other => other.task = commit.task) := by simp [member]
    rw [only, List.mem_singleton] at alone
    subst alone
    simp [same, within commit member]
  have all : (List.range changes.length).map (changes[·]?) = changes.map some := by
    refine List.ext_getElem? fun index => ?_
    by_cases inside : index < changes.length <;> simp [inside]
  have shuffled := tasks.map (changes[·]?)
  rw [named, all] at shuffled
  exact (List.map_perm_map_iff (Option.some_injective _)).1 shuffled

theorem last_of_gains {formula : Formula} {start : Int} {log : List Commit}
    (chained : Chained formula start log)
    (gains : ∀ commit ∈ log, ∃ amount, 0 ≤ amount ∧ commit.mutation = .addXp amount)
    (inRange : 0 ≤ start ∧ start ≤ maxXp) :
    last start log = min (start + (log.map fun commit => Mutation.gain commit.mutation).sum) maxXp := by
  induction log generalizing start with
  | nil =>
    simp only [last, List.foldl_nil, List.map_nil, List.sum_nil]
    omega
  | cons commit rest ih =>
    obtain ⟨-, new, chained⟩ := chained
    obtain ⟨amount, nonneg, mutation⟩ := gains commit (.head _)
    have later : 0 ≤ (rest.map fun commit => Mutation.gain commit.mutation).sum := by
      refine List.sum_nonneg fun gain member => ?_
      obtain ⟨other, inside, rfl⟩ := List.mem_map.1 member
      obtain ⟨amount, nonneg, mutation⟩ := gains other (.tail _ inside)
      simpa [mutation, Mutation.gain] using nonneg
    have new : commit.new = min (start + amount) maxXp := by
      rw [new, mutation, Mutation.target, clampXp]
      omega
    have ends := ih chained (fun other member => gains other (.tail _ member)) (by omega)
    have added : Mutation.gain commit.mutation = amount := by rw [mutation]; rfl
    rw [last, List.foldl_cons, ← last, ends, new, List.map_cons, List.sum_cons, added]
    omega

/-- Changes that add XP, in whatever order they are saved, add the sum. -/
theorem last_of_adds {formula : Formula} {start : Int} {log : List Commit} {amounts : List Int}
    (chained : Chained formula start log) (order : (log.map mutation).Perm (amounts.map .addXp))
    (nonneg : ∀ amount ∈ amounts, 0 ≤ amount) (inRange : 0 ≤ start ∧ start ≤ maxXp) :
    last start log = min (start + amounts.sum) maxXp := by
  have gains : ∀ commit ∈ log, ∃ amount, 0 ≤ amount ∧ commit.mutation = .addXp amount := by
    intro commit member
    obtain ⟨amount, given, same⟩ := List.mem_map.1 (order.subset (List.mem_map_of_mem member))
    exact ⟨amount, nonneg amount given, same.symm⟩
  have sum := (order.map Mutation.gain).sum_eq
  have added : (amounts.map Mutation.addXp).map Mutation.gain = amounts := by
    rw [List.map_map]
    exact List.map_id amounts
  rw [added, List.map_map] at sum
  rw [last_of_gains chained gains inRange]
  exact congrArg (fun sum => min (start + sum) maxXp) sum

end Commit

namespace Service

section Logs

variable [DecidableEq L]

/-- The change that is saved when a task takes a step. -/
def World.commit? (service : Service L) (world : World L) (index : Nat) (outage : Outage) : Option Commit :=
  world.tasks[index]?.bind fun task =>
    (world.step service index outage).tasks[index]?.bind fun next => task.commit? index next

/-- The changes that are saved along a schedule. -/
def World.commits (service : Service L) (world : World L) : List (Nat × Outage) → List Commit
  | [] => []
  | (index, outage) :: rest =>
    (world.commit? service index outage).toList ++ (world.step service index outage).commits service rest

end Logs

section Moves

variable {service : Service L} {state after : State L} {task next : Task L} {index : Nat}

theorem commit?_eq_none (unsaved : ∀ old new, next.phase ≠ .saved old new) : task.commit? index next = none := by
  rw [Task.commit?]
  split
  · rename_i saved
    exact absurd saved (unsaved _ _)
  · rfl

/-- A row is written by the one move that saves a change. -/
theorem Moved.saves (moved : Moved service state task after next) :
    ((∀ old new, next.phase ≠ .saved old new) ∧ after.store = state.store) ∨
      ∃ old new, task.phase = .saving old new ∧ next = { task with phase := .saved old new } ∧
        after = write state task.identity new := by
  have unheld (free : ¬ next.phase.Holds) (old new : Int) : next.phase ≠ .saved old new := by
    intro saved
    exact free (by rw [saved]; trivial)
  cases moved with
  | @saved old new saves => exact .inr ⟨old, new, saves, rfl, rfl⟩
  | blocked | answered | entered | resumed | loaded | queried | prepared | abandoned =>
    exact .inl ⟨fun _ _ => nofun, rfl⟩
  | announced _ books continued => exact .inl ⟨unheld continued.not_holds, books.store⟩
  | told _ books continued | returned _ _ books continued => exact .inl ⟨unheld continued.not_holds, books.store⟩
  | idle ended => exact .inl ⟨unheld (by simp [ended, Phase.Holds]), rfl⟩

theorem Moved.known (moved : Moved service state task after next) {identity : Identity}
    (known : (state.cache.get? identity).isSome) : (after.cache.get? identity).isSome := by
  have remembered (xp : Int) : ((remember state task.identity xp).cache.get? identity).isSome := by
    simp only [remember, Entries.get?_put]
    split
    · rfl
    · exact known
  cases moved with
  | blocked | answered | entered | resumed | loaded | abandoned | saved | idle => exact known
  | @queried query xp => exact remembered xp
  | @prepared mutation xp => exact remembered xp
  | @announced old new _ _ _ _ books => exact books.cache ▸ remembered new
  | told _ books | returned _ _ books => exact books.cache ▸ known

end Moves

section Chain

variable [DecidableEq L] {service : Service L} {world : World L}

/-- A step saves no change and no XP is different after it, or it saves the change of a call that went on from
the XP of the store. -/
theorem Consistent.commit (consistent : Consistent service world) (index : Nat) (outage : Outage) :
    (world.commit? service index outage = none ∧
      ∀ identity, (world.step service index outage).state.stored identity = world.state.stored identity) ∨
    ∃ commit, world.commit? service index outage = some commit ∧
      commit.old = world.state.stored commit.identity ∧
      commit.new = clampXp (commit.mutation.target service.formula commit.old) ∧
      (world.state.cache.get? commit.identity).isSome ∧
      ∀ identity, (world.step service index outage).state.stored identity
        = if commit.identity = identity then commit.new else world.state.stored identity := by
  cases present : world.tasks[index]? with
  | none => exact .inl ⟨by simp [World.commit?, present], by simp [World.step_of_absent present]⟩
  | some task =>
  obtain ⟨after, next, moved, becomes⟩ := World.step_of_present service outage present
  have saved : world.commit? service index outage = task.commit? index next := by
    simp [World.commit?, becomes, present, getElem?_set_of_some present]
  rw [saved, becomes]
  obtain ⟨unsaved, same⟩ | ⟨old, new, saves, rfl, rfl⟩ := moved.saves
  · exact .inl ⟨commit?_eq_none unsaved, fun identity => by rw [State.stored, same]; rfl⟩
  · have standing := consistent.standing present
    simp only [Standing, saves] at standing
    obtain ⟨-, known, stored, mutation, changes, rfl⟩ := standing
    refine .inr ⟨⟨index, task.waiting.length, task.identity, mutation, old,
      mutation.apply service.formula old⟩, ?_, stored, rfl, ?_, fun identity => ?_⟩
    · simp [Task.commit?, changes, saves]
    · exact Option.isSome_of_eq_some known
    · simp only [State.stored, write, Entries.get?_put]
      split <;> rfl

/-- The run lemma: the changes of an identity are a chain from the XP that it had to the XP that it has. -/
theorem Consistent.chained (consistent : Consistent service world) (identity : Identity)
    (schedule : List (Nat × Outage)) :
    let log := Commit.about identity (world.commits service schedule)
    Commit.Chained service.formula (world.state.stored identity) log ∧
      (world.run service schedule).state.stored identity = Commit.last (world.state.stored identity) log := by
  induction schedule generalizing world with
  | nil => exact ⟨trivial, rfl⟩
  | cons turn rest ih =>
    obtain ⟨chained, ends⟩ := ih (consistent.step turn.1 turn.2)
    obtain ⟨unsaved, same⟩ | ⟨commit, saved, old, new, -, stored⟩ := consistent.commit turn.1 turn.2
    · rw [same] at chained ends
      simp only [World.commits, unsaved]
      exact ⟨chained, ends⟩
    · rw [stored] at chained ends
      simp only [World.commits, saved, Commit.about, Option.toList_some, List.singleton_append, List.filter_cons]
      by_cases own : commit.identity = identity
      · subst own
        simp only [if_true, decide_true] at chained ends ⊢
        exact ⟨⟨old, old ▸ new, chained⟩, ends⟩
      · simp only [own, if_false, decide_false, Bool.false_eq_true] at chained ends ⊢
        exact ⟨chained, ends⟩

theorem Consistent.known (consistent : Consistent service world) {identity : Identity}
    (schedule : List (Nat × Outage))
    (known : Commit.about identity (world.commits service schedule) ≠ [] ∨ (world.state.cache.get? identity).isSome) :
    ((world.run service schedule).state.cache.get? identity).isSome := by
  induction schedule generalizing world with
  | nil => exact known.resolve_left fun nonempty => nonempty rfl
  | cons turn rest ih =>
    have still (known : (world.state.cache.get? identity).isSome) :
        ((world.step service turn.1 turn.2).state.cache.get? identity).isSome := by
      cases present : world.tasks[turn.1]? with
      | none => rwa [World.step_of_absent present]
      | some task =>
        obtain ⟨after, next, moved, becomes⟩ := World.step_of_present service turn.2 present
        rw [becomes]
        exact moved.known known
    refine ih (consistent.step turn.1 turn.2) ?_
    rcases known with nonempty | known
    · obtain ⟨unsaved, -⟩ | ⟨commit, saved, -, -, known, -⟩ := consistent.commit turn.1 turn.2
      · rw [World.commits, unsaved] at nonempty
        exact .inl nonempty
      · rw [World.commits, saved] at nonempty
        by_cases own : commit.identity = identity
        · exact .inr (still (own ▸ known))
        · refine .inl fun empty => nonempty ?_
          simpa [Commit.about, own] using empty
    · exact .inr (still known)

end Chain

section Calls

variable {service : Service L} {state after : State L} {task next : Task L} {index : Nat} {answer : Answer}

/-- Whether the answer of the call that a task began with is settled: listeners are told of its change, or it
has returned. -/
def Pledged (answer : Answer) (task : Task L) : Prop :=
  match task.waiting.getLast? with
  | some outer => outer.answer = answer
  | none =>
    match task.phase with
    | .telling settled _ _ => settled = answer
    | .finished outcome => outcome = .ok answer
    | _ => False

/-- Whether a task that began with a change has still to save it, or will never do so. -/
def Awaits (call : Call) (task : Task L) : Prop :=
  task.waiting = [] ∧ task.call = call ∧ (task.phase.Open ∨ ∃ fault, task.phase = .finished (.error fault))

/-- Whether a task that began with a change has saved it. -/
def Sealed (formula : Formula) (mutation : Mutation) (new : Int) (task : Task L) : Prop :=
  (task.waiting = [] ∧ task.call.request = .change mutation ∧ ∃ old, task.phase = .saved old new) ∨
    Pledged (mutation.answer formula new) task

theorem Continued.pledged {settled : Answer} (continued : Continued settled task next)
    (alone : task.waiting = [] → settled = answer)
    (outermost : ∀ outer, task.waiting.getLast? = some outer → outer.answer = answer) : Pledged answer next := by
  cases last : task.waiting.getLast? with
  | none =>
    rw [List.getLast?_eq_none_iff] at last
    cases continued with
    | finished => simp [Pledged, last, alone last]
    | telling => simp [Pledged, last, alone last]
    | calling => simp [Pledged, last, alone last]
  | some outer =>
    have same := outermost outer last
    cases continued with
    | finished | telling => simp [Pledged, last, same]
    | calling => simp [Pledged, List.getLast?_cons, last, same]

theorem commit?_eq_some {commit : Commit} (saved : task.commit? index next = some commit) :
    commit.task = index ∧ commit.depth = task.waiting.length ∧ ∃ old new, task.phase = .saving old new := by
  rw [Task.commit?] at saved
  split at saved
  · rename_i saves _
    cases saved
    exact ⟨rfl, rfl, _, _, saves⟩
  · cases saved

theorem Moved.pledged (moved : Moved service state task after next) (pledged : Pledged answer task) :
    Pledged answer next ∧ ∀ commit, task.commit? index next = some commit → commit.depth ≠ 0 := by
  rw [Pledged] at pledged
  split at pledged
  · rename_i outer last
    have waits : task.waiting ≠ [] := by
      intro alone
      simp [alone] at last
    refine ⟨?_, fun commit saved => ?_⟩
    · have outermost (other : Waiting L) (same : task.waiting.getLast? = some other) : other.answer = answer := by
        cases last.symm.trans same
        exact pledged
      cases moved with
      | announced _ _ continued | told _ _ continued => exact continued.pledged (absurd · waits) outermost
      | @returned outcome first waiting _ _ _ stack _ continued =>
        rw [stack] at outermost
        refine continued.pledged (fun alone => outermost first ?_) fun other same => outermost other ?_
        · simp [show waiting = [] from alone]
        · simp [List.getLast?_cons, show waiting.getLast? = some other from same]
      | blocked | answered | entered | resumed | loaded | queried | prepared | abandoned | saved | idle =>
        simpa [Pledged, last] using pledged
    · rw [(commit?_eq_some saved).2.1]
      exact fun empty => waits (List.length_eq_zero_iff.1 empty)
  · rename_i alone
    rw [List.getLast?_eq_none_iff] at alone
    refine ⟨?_, fun commit saved => ?_⟩
    · cases moved with
      | @told settled _ _ _ _ tells _ continued =>
        rw [tells] at pledged
        exact continued.pledged (fun _ => pledged) (by simp [alone])
      | returned _ waits => simp [alone] at waits
      | idle ended => simpa [Pledged, alone] using pledged
      | blocked waits | answered waits | entered waits | resumed waits =>
        split at pledged <;> simp_all [Phase.Waits]
      | loaded earlier | queried earlier | prepared earlier | saved earlier | announced earlier =>
        simp [earlier] at pledged
      | abandoned unsaved => rcases unsaved with loads | ⟨old, new, saves⟩ <;> simp_all
    · obtain ⟨-, -, old, new, saves⟩ := commit?_eq_some saved
      simp [saves] at pledged

theorem Moved.sealed (moved : Moved service state task after next) {mutation : Mutation} {new : Int} (index : Nat)
    (saved : Sealed service.formula mutation new task) :
    Sealed service.formula mutation new next ∧ ∀ commit, task.commit? index next = some commit → commit.depth ≠ 0 := by
  rcases saved with ⟨alone, changes, old, phase⟩ | pledged
  · refine ⟨.inr ?_, fun commit saved => ?_⟩
    · cases moved with
      | announced earlier _ continued settled =>
        cases phase.symm.trans earlier
        exact continued.pledged (fun _ => settled mutation changes) (by simp [alone])
      | blocked waits | answered waits | entered waits | resumed waits => simp [phase, Phase.Waits] at waits
      | loaded earlier | queried earlier | prepared earlier | saved earlier | told earlier | returned earlier
      | idle earlier => simp [phase] at earlier
      | abandoned unsaved => simp [phase] at unsaved
    · obtain ⟨-, -, old, new, saves⟩ := commit?_eq_some saved
      simp [phase] at saves
  · exact (moved.pledged pledged).imp_left .inr

theorem Moved.awaits (moved : Moved service state task after next) (index : Nat) {call : Call} {mutation : Mutation}
    (changes : call.request = .change mutation) (awaits : Awaits call task) :
    (Awaits call next ∧ task.commit? index next = none) ∨
      ∃ old new, task.commit? index next = some ⟨index, 0, call.identity, mutation, old, new⟩ ∧
        Sealed service.formula mutation new next := by
  obtain ⟨alone, rfl, phase⟩ := awaits
  cases moved with
  | @saved old new saves =>
    refine .inr ⟨old, new, ?_, .inl ⟨alone, changes, old, rfl⟩⟩
    simp [Task.commit?, changes, saves, alone, Task.identity]
  | blocked | entered | resumed | loaded | prepared =>
    exact .inl ⟨⟨alone, rfl, .inl trivial⟩, commit?_eq_none (by simp)⟩
  | abandoned => exact .inl ⟨⟨alone, rfl, .inr ⟨_, rfl⟩⟩, commit?_eq_none (by simp)⟩
  | answered _ asks | queried _ asks => simp [changes] at asks
  | announced earlier | told earlier => simp [earlier, Phase.Open] at phase
  | returned _ waits => simp [alone] at waits
  | idle ended => exact .inl ⟨⟨alone, rfl, phase⟩, commit?_eq_none fun _ _ => by simp [ended]⟩

end Calls

section Returns

variable [DecidableEq L] {service : Service L} {world : World L} {index : Nat} {task : Task L}

theorem World.commit?_of_present {outage : Outage} {after : State L} {next : Task L}
    (present : world.tasks[index]? = some task)
    (becomes : world.step service index outage = ⟨after, world.tasks.set index next⟩) :
    world.commit? service index outage = task.commit? index next := by
  simp [World.commit?, becomes, present, getElem?_set_of_some present]

theorem World.outermost_of_other {turn : Nat × Outage} {rest : List (Nat × Outage)} (different : index ≠ turn.1) :
    Commit.outermost index (world.commits service (turn :: rest))
      = Commit.outermost index ((world.step service turn.1 turn.2).commits service rest) := by
  have others : Commit.outermost index (world.commit? service turn.1 turn.2).toList = [] := by
    refine List.filter_eq_nil_iff.2 fun commit member => ?_
    obtain ⟨task, -, saved⟩ := Option.bind_eq_some_iff.1 (Option.mem_toList.1 member)
    obtain ⟨next, -, saved⟩ := Option.bind_eq_some_iff.1 saved
    simp [(commit?_eq_some saved).1, different.symm]
  rw [World.commits, Commit.outermost, List.filter_append]
  exact (congrArg (· ++ _) others).trans (List.nil_append _)

theorem World.outermost_of_own {outage : Outage} {rest : List (Nat × Outage)} :
    Commit.outermost index (world.commits service ((index, outage) :: rest))
      = Commit.outermost index (world.commit? service index outage).toList
        ++ Commit.outermost index ((world.step service index outage).commits service rest) := by
  rw [World.commits, Commit.outermost, List.filter_append]
  rfl

theorem World.sealed_run {mutation : Mutation} {new : Int} (schedule : List (Nat × Outage))
    (present : world.tasks[index]? = some task) (saved : Sealed service.formula mutation new task) :
    Commit.outermost index (world.commits service schedule) = [] ∧
      ∃ final, (world.run service schedule).tasks[index]? = some final ∧
        Sealed service.formula mutation new final := by
  induction schedule generalizing world task with
  | nil => exact ⟨rfl, task, present, saved⟩
  | cons turn rest ih =>
    by_cases own : index = turn.1
    · subst own
      obtain ⟨after, next, moved, becomes⟩ := World.step_of_present service turn.2 present
      obtain ⟨saved, inner⟩ := moved.sealed turn.1 saved
      have stands : (world.step service turn.1 turn.2).tasks[turn.1]? = some next := by
        simp [becomes, getElem?_set_of_some present]
      obtain ⟨nothing, ends⟩ := ih stands saved
      refine ⟨?_, ends⟩
      rw [World.outermost_of_own, nothing, List.append_nil, World.commit?_of_present present becomes]
      refine List.filter_eq_nil_iff.2 fun commit member => ?_
      simp [inner commit (Option.mem_toList.1 member)]
    · rw [World.outermost_of_other own]
      exact ih ((World.step_of_other own).trans present) saved

/-- The run lemma of first calls that have still to save their change: along a schedule they save it once or not
at all. -/
theorem World.awaits_run {call : Call} {mutation : Mutation} (schedule : List (Nat × Outage))
    (changes : call.request = .change mutation) (present : world.tasks[index]? = some task)
    (awaits : Awaits call task) :
    ∃ final, (world.run service schedule).tasks[index]? = some final ∧
      ((Awaits call final ∧ Commit.outermost index (world.commits service schedule) = []) ∨
        ∃ old new, Commit.outermost index (world.commits service schedule)
            = [⟨index, 0, call.identity, mutation, old, new⟩] ∧
          Sealed service.formula mutation new final) := by
  induction schedule generalizing world task with
  | nil => exact ⟨task, present, .inl ⟨awaits, rfl⟩⟩
  | cons turn rest ih =>
    by_cases own : index = turn.1
    · subst own
      obtain ⟨after, next, moved, becomes⟩ := World.step_of_present service turn.2 present
      have stands : (world.step service turn.1 turn.2).tasks[turn.1]? = some next := by
        simp [becomes, getElem?_set_of_some present]
      rw [World.outermost_of_own, World.commit?_of_present present becomes]
      obtain ⟨awaits, unsaved⟩ | ⟨old, new, saved, sealed⟩ := moved.awaits turn.1 changes awaits
      · rw [unsaved]
        exact ih stands awaits
      · obtain ⟨nothing, final, ends, sealed⟩ := World.sealed_run rest stands sealed
        refine ⟨final, ends, .inr ⟨old, new, ?_, sealed⟩⟩
        rw [saved, nothing]
        simp [Commit.outermost]
    · rw [World.outermost_of_other own]
      exact ih ((World.step_of_other own).trans present) awaits

/-- A first call that returned has saved its change once and answers by it, and one that failed has saved
nothing. -/
theorem World.commits_of_outcome {start : State L} {calls : List Call} {call : Call} {mutation : Mutation}
    {schedule : List (Nat × Outage)} (made : calls[index]? = some call) (changes : call.request = .change mutation)
    {final : Task L} (present : ((World.begin start calls).run service schedule).tasks[index]? = some final)
    {outcome : Outcome} (ended : final.outcome? = some outcome) :
    Commit.Accounts service.formula index call.identity mutation
      ((World.begin start calls).commits service schedule) outcome := by
  have begins : (World.begin start calls).tasks[index]? = some { call } := by
    simp [World.begin, made]
  have awaits : Awaits call ({ call } : Task L) := ⟨rfl, rfl, .inl trivial⟩
  obtain ⟨last, stands, run⟩ := World.awaits_run schedule changes begins awaits
  cases present.symm.trans stands
  obtain ⟨phase, alone⟩ : final.phase = .finished outcome ∧ final.waiting = [] := by
    rw [Task.outcome?] at ended
    split at ended
    · rename_i phase alone
      cases ended
      exact ⟨phase, alone⟩
    · cases ended
  rcases run with ⟨⟨-, -, open_or_failed⟩, nothing⟩ | ⟨old, new, saved, ⟨-, -, old', earlier⟩ | pledged⟩
  · cases outcome with
    | error fault => exact nothing
    | ok answer => simp [phase, Phase.Open] at open_or_failed
  · simp [phase] at earlier
  · simp only [Pledged, alone, List.getLast?_nil, phase] at pledged
    subst pledged
    exact ⟨old, new, saved, rfl⟩

theorem World.commits_task_lt (schedule : List (Nat × Outage)) :
    ∀ commit ∈ world.commits service schedule, commit.task < world.tasks.length := by
  induction schedule generalizing world with
  | nil => exact fun commit member => absurd member List.not_mem_nil
  | cons turn rest ih =>
    intro commit member
    rcases List.mem_append.1 member with saved | later
    · obtain ⟨task, present, saved⟩ := Option.bind_eq_some_iff.1 (Option.mem_toList.1 saved)
      obtain ⟨next, -, saved⟩ := Option.bind_eq_some_iff.1 saved
      rw [(commit?_eq_some saved).1]
      exact (List.getElem?_eq_some_iff.1 present).1
    · have same : (world.step service turn.1 turn.2).tasks.length = world.tasks.length := World.length_tasks_step
      exact same ▸ ih commit later

end Returns

section Listeners

variable [DecidableEq L] {service : Service L} {world : World L} {allowed : Call → Prop}

omit [DecidableEq L] in
theorem allowed_of_inner {index : Nat} {task next : Task L} {commit : Commit}
    (only : task.CallsOnly allowed) (saved : task.commit? index next = some commit) (inner : commit.depth ≠ 0) :
    ∃ call, allowed call ∧ call.identity = commit.identity ∧ call.request = .change commit.mutation := by
  obtain ⟨-, depth, -⟩ := commit?_eq_some saved
  have called : allowed task.call := by
    refine only.calls _ ?_
    cases waits : task.waiting with
    | nil => exact absurd (by simp [depth, waits]) inner
    | cons outer waiting => exact .head _
  rw [Task.commit?] at saved
  split at saved
  · rename_i changes _ _
    cases saved
    exact ⟨task.call, called, rfl, changes⟩
  · cases saved

omit [DecidableEq L] in
theorem World.callsOnly_begin {start : State L} {calls : List Call} :
    ∀ task ∈ (World.begin start calls).tasks, task.CallsOnly allowed := by
  intro task member
  obtain ⟨call, -, rfl⟩ := List.mem_map.1 member
  exact ⟨fun _ inner => absurd inner List.not_mem_nil, fun _ waits => absurd waits List.not_mem_nil,
    fun _ _ _ tells => nomatch tells⟩

theorem World.inner_commits (only : ∀ told listener notice, (service.react told listener notice).CallsOnly allowed)
    (schedule : List (Nat × Outage)) (calls : ∀ task ∈ world.tasks, task.CallsOnly allowed) :
    ∀ commit ∈ world.commits service schedule, commit.depth ≠ 0 →
      ∃ call, allowed call ∧ call.identity = commit.identity ∧ call.request = .change commit.mutation := by
  induction schedule generalizing world with
  | nil => exact fun commit member => absurd member List.not_mem_nil
  | cons turn rest ih =>
    cases present : world.tasks[turn.1]? with
    | none =>
      intro commit member
      simp only [World.commits, World.commit?, present, World.step_of_absent present] at member
      exact ih calls commit member
    | some task =>
      have before := calls task (List.mem_of_getElem? present)
      have becomes : world.step service turn.1 turn.2
          = ⟨(Service.step service turn.2 world.state task).1,
              world.tasks.set turn.1 (Service.step service turn.2 world.state task).2⟩ := by
        simp only [World.step, present]
      intro commit member inner
      rw [World.commits, World.commit?_of_present present becomes, List.mem_append] at member
      rcases member with saved | later
      · exact allowed_of_inner before (Option.mem_toList.1 saved) inner
      · refine ih (fun other member => ?_) commit later inner
        rw [becomes] at member
        rcases List.mem_or_eq_of_mem_set member with earlier | rfl
        · exact calls other earlier
        · exact step_callsOnly service turn.2 only before

end Listeners

section Main

variable [DecidableEq L] {service : Service L} {start : State L} {identity : Identity} {changes : List Mutation}
  {schedule : List (Nat × Outage)}

/-- Tasks that are about to make changes of the XP of an identity. -/
def World.changing (start : State L) (identity : Identity) (changes : List Mutation) : World L :=
  .begin start (changes.map fun mutation => ⟨identity, .change mutation⟩)

theorem World.accounts {index : Nat} {mutation : Mutation} {task : Task L} {outcome : Outcome}
    (given : changes[index]? = some mutation)
    (present : ((World.changing start identity changes).run service schedule).tasks[index]? = some task)
    (ended : task.outcome? = some outcome) :
    Commit.Accounts service.formula index identity mutation
      (Commit.about identity ((World.changing start identity changes).commits service schedule)) outcome := by
  have made : (changes.map fun mutation => (⟨identity, .change mutation⟩ : Call))[index]?
      = some ⟨identity, .change mutation⟩ := by
    rw [List.getElem?_map, given]
    rfl
  exact Commit.accounts_about (World.commits_of_outcome made rfl present ended)

omit [DecidableEq L] in
theorem Consistent.free {world : World L} (consistent : Consistent service world)
    (ended : ∀ task ∈ world.tasks, task.outcome? ≠ none) : identity ∉ world.state.locked := by
  intro taken
  obtain ⟨index, task, present, holds, -⟩ := consistent.held taken
  have ended := ended task (List.mem_of_getElem? present)
  rw [Task.outcome?] at ended
  split at ended <;> simp_all [Phase.Holds]

theorem World.depth_eq_zero (start : State L) (calls : List Call) (schedule : List (Nat × Outage))
    (spared : ∀ told listener notice, (service.react told listener notice).CallsOnly fun call =>
      call.identity = identity → ∃ query, call.request = .ask query) :
    ∀ commit ∈ Commit.about identity ((World.begin start calls).commits service schedule), commit.depth = 0 := by
  intro commit member
  rw [Commit.mem_about] at member
  by_contra inner
  obtain ⟨call, allowed, same, changed⟩ :=
    World.inner_commits spared schedule World.callsOnly_begin commit member.1 inner
  obtain ⟨query, asks⟩ := allowed (same.trans member.2)
  rw [asks] at changed
  cases changed

theorem World.changes_ordered
    (spared : ∀ told listener notice, (service.react told listener notice).CallsOnly fun call =>
      call.identity = identity → ∃ query, call.request = .ask query)
    (returned : ∀ task ∈ ((World.changing start identity changes).run service schedule).tasks,
      ∃ answer, task.outcome? = some (.ok answer)) :
    ((Commit.about identity ((World.changing start identity changes).commits service schedule)).map
      Commit.mutation).Perm changes := by
  have outer : ∀ commit ∈ Commit.about identity ((World.changing start identity changes).commits service schedule),
      commit.depth = 0 := World.depth_eq_zero start _ schedule spared
  have count : (World.changing start identity changes).tasks.length = changes.length := by
    simp [World.changing, World.begin]
  refine Commit.perm_of_once (fun commit member => ?_) fun index mutation given => ?_
  · exact count ▸ World.commits_task_lt schedule commit (Commit.mem_about.1 member).1
  · obtain ⟨inside, -⟩ := List.getElem?_eq_some_iff.1 given
    have present := List.getElem?_eq_getElem
      (show index < ((World.changing start identity changes).run service schedule).tasks.length by
        rw [World.length_tasks_run, count]; exact inside)
    obtain ⟨answer, ended⟩ := returned _ (List.mem_of_getElem? present)
    obtain ⟨old, new, only, -⟩ := World.accounts given present ended
    refine ⟨_, (List.filter_congr fun commit member => ?_).trans only, rfl⟩
    simp [outer commit member]

/-- However calls that change the XP of an identity take turns, and whatever fails meanwhile: the changes that are
saved follow one another, from the XP that the store had to the XP that it has, and each leads from the XP that
the one before led to. A call that returned saved its change once and answers by it, one that failed saved
nothing. When all are over, what is known is what the last change led to. If listeners change nothing of the
identity and all calls returned, the changes are theirs in some order; if all add XP, the sum is added. -/
theorem changes_take_turns (service : Service L) {start : State L} (settled : start.Settled)
    (identity : Identity) (changes : List Mutation) (schedule : List (Nat × Outage)) :
    let world := (World.changing start identity changes).run service schedule
    let log := Commit.about identity ((World.changing start identity changes).commits service schedule)
    (Commit.Chained service.formula (start.stored identity) log ∧
      world.state.stored identity = Commit.last (start.stored identity) log) ∧
    (∀ (index : Nat) (mutation : Mutation) (task : Task L) (outcome : Outcome), changes[index]? = some mutation →
      world.tasks[index]? = some task → task.outcome? = some outcome →
        Commit.Accounts service.formula index identity mutation log outcome) ∧
    ((∀ task ∈ world.tasks, task.outcome? ≠ none) → identity ∉ world.state.locked ∧
      (log ≠ [] → world.state.cache.get? identity = some (Commit.last (start.stored identity) log))) ∧
    ((∀ told listener notice, (service.react told listener notice).CallsOnly fun call =>
        call.identity = identity → ∃ query, call.request = .ask query) →
      (∀ task ∈ world.tasks, ∃ answer, task.outcome? = some (.ok answer)) →
        (log.map Commit.mutation).Perm changes ∧
        ∀ amounts : List Int, changes = amounts.map .addXp → (∀ amount ∈ amounts, 0 ≤ amount) →
          0 ≤ start.stored identity ∧ start.stored identity ≤ maxXp →
            world.state.stored identity = min (start.stored identity + amounts.sum) maxXp) := by
  intro world log
  have consistent : Consistent service (World.changing start identity changes) := settled.consistent _
  have later : Consistent service world := consistent.run schedule
  obtain ⟨chained, ends⟩ : Commit.Chained service.formula (start.stored identity) log ∧
      world.state.stored identity = Commit.last (start.stored identity) log :=
    consistent.chained identity schedule
  refine ⟨⟨chained, ends⟩, fun index mutation task outcome given present ended =>
    World.accounts given present ended, fun ended => ?_, fun spared returned => ?_⟩
  · have free : identity ∉ world.state.locked := later.free ended
    refine ⟨free, fun nonempty => ?_⟩
    obtain ⟨xp, known⟩ := Option.isSome_iff_exists.1 (consistent.known schedule (.inl nonempty))
    have same : xp = world.state.stored identity := later.agrees identity free xp known
    rw [← ends, ← same]
    exact known
  · have order : (log.map Commit.mutation).Perm changes := World.changes_ordered spared returned
    refine ⟨order, fun amounts adds nonneg inRange => ?_⟩
    rw [ends]
    exact Commit.last_of_adds chained (adds ▸ order) nonneg inRange

end Main

/-- Two calls take turns that add 30 and 70 to the 500 XP of an identity. -/
theorem changes_take_turns_add :
    ((World.changing quietStart "a" [.addXp 30, .addXp 70]).run quiet
      ([0, 1, 0, 0, 0, 0, 1, 1, 1].map fun turn => (turn, {}))).state.stored "a" = 600 := by
  have settled : quietStart.Settled := ⟨rfl, fun _ _ known => nomatch known⟩
  obtain ⟨-, -, -, ordered⟩ := changes_take_turns quiet settled "a" [.addXp 30, .addXp 70]
    ([0, 1, 0, 0, 0, 0, 1, 1, 1].map fun turn => (turn, {}))
  have outcomes : ((World.changing quietStart "a" [.addXp 30, .addXp 70]).run quiet
      ([0, 1, 0, 0, 0, 0, 1, 1, 1].map fun turn => (turn, {}))).tasks.map Task.outcome?
      = [some (.ok (.number 530)), some (.ok (.number 600))] := by decide +kernel
  have sum := (ordered (fun _ _ _ => trivial) fun task member => ?_).2 [30, 70] rfl (by decide) (by decide)
  · have total : min (quietStart.stored "a" + List.sum [30, 70]) maxXp = 600 := by decide
    exact sum.trans total
  · have ended := List.mem_map_of_mem (f := Task.outcome?) member
    rw [outcomes, List.mem_pair] at ended
    rcases ended with first | second
    · exact ⟨_, first⟩
    · exact ⟨_, second⟩

end Service

end Progression
