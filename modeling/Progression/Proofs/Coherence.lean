import Progression.Proofs.Calls
import Progression.Proofs.Formula

/-!
The cache and the store of a service, at every point of every schedule. A call that holds the lock of an
identity knows how the cache and the store stand, for nobody else touches them; when the lock is free, what the
cache knows is what the store has. A call that fails has changed nothing for others to see.
-/

namespace Progression

variable {L : Type}

namespace Service

/-- The change that a call is about makes `new` of `old`. -/
def Intends (formula : Formula) (task : Task L) (old new : Int) : Prop :=
  ∃ mutation, task.call.request = .change mutation ∧ new = mutation.apply formula old

/-- What the phase of a call says of the account of its identity. -/
def Standing (formula : Formula) (account : Account) (task : Task L) : Prop :=
  match task.phase with
  | .loading => account.locked ∧ account.known = none
  | .loaded xp => account.locked ∧ account.known = none ∧ xp = account.stored
  | .saving old new =>
    account.locked ∧ account.known = some old ∧ old = account.stored ∧ Intends formula task old new
  | .saved old new =>
    account.locked ∧ account.known = some old ∧ account.row = some new ∧ Intends formula task old new
  | _ => True

/-- Unless the lock is taken, known XP is that of the store. -/
def Account.Agrees (account : Account) : Prop :=
  ¬ account.locked → ∀ xp, account.known = some xp → xp = account.stored

/-- What holds of tasks and their service at every point of a schedule. -/
structure Consistent (service : Service L) (world : World L) : Prop where
  /-- A call stands as its phase says. -/
  standing : ∀ {index : Nat} {task : Task L}, world.tasks[index]? = some task →
    Standing service.formula (world.state.account task.identity) task
  /-- No two calls hold the lock of one identity. -/
  alone : ∀ {index other : Nat} {task rival : Task L}, world.tasks[index]? = some task →
    world.tasks[other]? = some rival → task.phase.Holds → rival.phase.Holds → task.identity = rival.identity →
      index = other
  /-- A lock that is taken is held by a call. -/
  held : ∀ {identity : Identity}, identity ∈ world.state.locked →
    ∃ (index : Nat) (task : Task L), world.tasks[index]? = some task ∧ task.phase.Holds ∧ task.identity = identity
  agrees : ∀ identity, (world.state.account identity).Agrees

section Moves

variable {service : Service L} {state after : State L} {task next : Task L} {formula : Formula}

theorem Standing.of_not_holds {account : Account} (free : ¬ task.phase.Holds) :
    Standing formula account task := by
  rw [Standing]
  split <;> simp_all [Phase.Holds]

theorem Standing.locked {account : Account} (standing : Standing formula account task)
    (holds : task.phase.Holds) : account.locked := by
  rw [Standing] at standing
  split at standing <;> simp_all [Phase.Holds]

/-- A task stands as its phase says after each step of its own. -/
theorem Moved.standing (moved : Moved service state task after next)
    (standing : Standing service.formula (state.account task.identity) task)
    (agrees : (state.account task.identity).Agrees) :
    Standing service.formula (after.account next.identity) next := by
  cases moved with
  | blocked | answered | queried | abandoned => exact .of_not_holds (by simp [Phase.Holds])
  | entered _ free unknown => exact ⟨.head _, unknown⟩
  | @resumed mutation xp _ free changes known =>
    exact ⟨.head _, known, agrees free xp known, mutation, changes, rfl⟩
  | loaded loads =>
    simp only [Standing, loads] at standing
    exact ⟨standing.1, standing.2, rfl⟩
  | @prepared mutation xp loaded changes =>
    simp only [Standing, loaded] at standing
    exact ⟨standing.1, by simp [State.account, remember, Task.identity], standing.2.2, mutation, changes, rfl⟩
  | saved saves =>
    simp only [Standing, saves] at standing
    obtain ⟨locked, known, -, intends⟩ := standing
    exact ⟨locked, known, by simp [State.account, write, Task.identity], intends⟩
  | announced _ _ continued | told _ _ continued | returned _ _ _ continued =>
    exact .of_not_holds continued.not_holds
  | idle ended => exact .of_not_holds (by simp [ended, Phase.Holds])

theorem Moved.agrees (moved : Moved service state task after next)
    (standing : Standing service.formula (state.account task.identity) task)
    (agrees : (state.account task.identity).Agrees) : (after.account task.identity).Agrees := by
  cases moved with
  | blocked | answered | loaded | idle => exact agrees
  | entered | resumed => exact fun free => absurd (.head _) free
  | queried loaded =>
    simp only [Standing, loaded] at standing
    intro free xp known
    simp only [State.account, unlock, remember, Entries.get?_put, if_true, Option.some.injEq] at known
    exact known.symm.trans standing.2.2
  | prepared loaded =>
    simp only [Standing, loaded] at standing
    exact fun free => absurd standing.1 free
  | abandoned unsaved =>
    intro free xp known
    rcases unsaved with loads | ⟨old, new, saves⟩
    · simp only [Standing, loads] at standing
      exact absurd (known.symm.trans standing.2) (Option.some_ne_none xp)
    · simp only [Standing, saves] at standing
      exact (Option.some.inj (known.symm.trans standing.2.1)).trans standing.2.2.1
  | saved saves =>
    simp only [Standing, saves] at standing
    exact fun free => absurd standing.1 free
  | announced saved books =>
    simp only [Standing, saved] at standing
    rw [books.account]
    intro free xp known
    simp only [State.account, unlock, remember, Entries.get?_put, if_true, Option.some.injEq] at known
    rw [← known]
    exact (congrArg (Option.getD · 0) standing.2.2.1).symm
  | told _ books | returned _ _ books => exact (books.account _).symm ▸ agrees

end Moves

section Runs

variable [DecidableEq L] {service : Service L} {world : World L}

section Step

variable {index : Nat} {task next : Task L} {after : State L} (consistent : Consistent service world)
  (present : world.tasks[index]? = some task) (moved : Moved service world.state task after next)

include consistent present moved

omit [DecidableEq L]

/-- A task keeps away from the books of an identity whose lock another task holds. -/
theorem Consistent.frame {other : Nat} {rival : Task L} (different : other ≠ index)
    (stands : world.tasks[other]? = some rival) (holds : rival.phase.Holds) :
    after.account rival.identity = world.state.account rival.identity := by
  have locked := (consistent.standing stands).locked holds
  refine moved.frame ?_
  by_cases same : rival.identity = task.identity
  · exact .inr ⟨fun also => different (consistent.alone stands present holds also same), locked⟩
  · exact .inl same

theorem Consistent.clash {other : Nat} {rival : Task L} (different : other ≠ index)
    (stands : world.tasks[other]? = some rival) (holds : rival.phase.Holds) (next_holds : next.phase.Holds) :
    rival.identity ≠ next.identity := by
  intro equal
  obtain ⟨own, was | free⟩ := moved.of_holds next_holds
  · exact different (consistent.alone stands present holds was (equal.trans own))
  · exact free (own ▸ equal ▸ (consistent.standing stands).locked holds)

/-- The holder of a lock that is taken after a step is the task that made it, or stands where it stood. -/
theorem Consistent.held_of_moved {identity : Identity} (taken : identity ∈ after.locked) :
    ∃ (holder : Nat) (rival : Task L), (world.tasks.set index next)[holder]? = some rival ∧ rival.phase.Holds ∧
      rival.identity = identity := by
  by_cases next_holds : next.phase.Holds ∧ next.identity = identity
  · exact ⟨index, next, by simp [getElem?_set_of_some present], next_holds⟩
  have earlier : identity ∈ world.state.locked ∧ ¬ (task.phase.Holds ∧ task.identity = identity) := by
    by_cases own : identity = task.identity
    · subst own
      have free : ¬ next.phase.Holds := fun holds => next_holds ⟨holds, (moved.of_holds holds).1⟩
      obtain ⟨not_held, taken⟩ := moved.of_not_holds free taken
      exact ⟨taken, fun held => not_held held.1⟩
    · have same := congrArg Account.locked (moved.frame (.inl own))
      exact ⟨same.mp taken, fun held => own held.2.symm⟩
  obtain ⟨holder, rival, stands, holds, equal⟩ := consistent.held earlier.1
  refine ⟨holder, rival, ?_, holds, equal⟩
  rw [getElem?_set_of_some present, if_neg]
  · exact stands
  · rintro rfl
    cases present.symm.trans stands
    exact earlier.2 ⟨holds, equal⟩

theorem Consistent.of_moved : Consistent service ⟨after, world.tasks.set index next⟩ := by
  have standing := consistent.standing present
  refine ⟨fun {other rival} stands => ?_, fun one_stands other_stands left_holds right_holds same => ?_,
    consistent.held_of_moved present moved, fun identity => ?_⟩
  · rcases getElem?_set_cases stands with ⟨rfl, rfl⟩ | ⟨different, stands⟩
    · exact moved.standing standing (consistent.agrees _)
    · by_cases holds : rival.phase.Holds
      · rw [consistent.frame present moved different stands holds]
        exact consistent.standing stands
      · exact .of_not_holds holds
  · exact alone_set (fun left right => left.phase.Holds ∧ right.phase.Holds ∧ left.identity = right.identity)
      (fun ⟨left, right, same⟩ => ⟨right, left, same.symm⟩)
      (fun left right ⟨holds, also, same⟩ => consistent.alone left right holds also same)
      (fun different stands ⟨holds, also, same⟩ => consistent.clash present moved different stands holds also same)
      one_stands other_stands ⟨left_holds, right_holds, same⟩
  · by_cases own : identity = task.identity
    · subst own
      exact moved.agrees standing (consistent.agrees _)
    · rw [moved.frame (.inl own)]
      exact consistent.agrees identity

end Step

/-- The step lemma: tasks and their service stay consistent. -/
theorem Consistent.step (consistent : Consistent service world) (index : Nat) (outage : Outage) :
    Consistent service (world.step service index outage) := by
  cases present : world.tasks[index]? with
  | none =>
    rw [World.step_of_absent present]
    exact consistent
  | some task =>
    obtain ⟨after, next, moved, becomes⟩ := World.step_of_present service outage present
    rw [becomes]
    exact consistent.of_moved present moved

/-- The run lemma: tasks and their service stay consistent along every schedule. -/
theorem Consistent.run (consistent : Consistent service world) (schedule : List (Nat × Outage)) :
    Consistent service (world.run service schedule) := by
  induction schedule generalizing world with
  | nil => exact consistent
  | cons turn rest ih => exact ih (consistent.step turn.1 turn.2)

end Runs

/-- A service between calls: no lock is taken, and what is known is what the store has. -/
structure State.Settled (state : State L) : Prop where
  free : state.locked = []
  agrees : ∀ identity xp, state.cache.get? identity = some xp → xp = state.stored identity

/-- Tasks that are about to make calls. -/
def World.begin (start : State L) (calls : List Call) : World L := ⟨start, calls.map fun call => { call }⟩

theorem State.Settled.consistent {service : Service L} {start : State L} (settled : start.Settled)
    (calls : List Call) : Consistent service (World.begin start calls) := by
  have fresh {index : Nat} {task : Task L} (present : (World.begin start calls).tasks[index]? = some task) :
      ¬ task.phase.Holds := by
    simp only [World.begin, List.getElem?_map, Option.map_eq_some_iff] at present
    obtain ⟨call, -, rfl⟩ := present
    exact fun holds => holds
  refine ⟨fun present => .of_not_holds (fresh present), fun present _ holds => absurd holds (fresh present),
    fun taken => ?_, fun identity _ => settled.agrees identity⟩
  exact absurd (settled.free ▸ taken) List.not_mem_nil

end Service

namespace Task

/-- What the call led to for which `depth` other calls wait, if the task is at the end of it. -/
def ended? (task : Task L) (depth : Nat) : Option Outcome :=
  match task.phase with
  | .finished outcome => if task.waiting.length = depth then some outcome else none
  | _ => none

/-- Whether the call for which `depth` other calls wait has saved its change or given its answer, so that it
will not fail. -/
def Past (depth : Nat) (task : Task L) : Prop :=
  depth < task.waiting.length ∨ task.waiting.length = depth ∧
    match task.phase with
    | .saved _ _ | .telling _ _ _ | .finished (.ok _) => True
    | _ => False

theorem Past.ended? {task : Task L} {depth : Nat} (past : task.Past depth) {fault : StoreFault} :
    task.ended? depth ≠ some (.error fault) := by
  rw [Task.ended?]
  rcases past with deeper | ⟨rfl, phase⟩
  · split <;> simp [Nat.ne_of_gt deeper]
  · split
    · rename_i outcome ended
      rw [ended] at phase
      cases outcome with
      | error => exact phase.elim
      | ok => simp
    · simp

end Task

namespace Service

section Failures

variable {service : Service L} {state after : State L} {task next : Task L} {depth : Nat}

theorem Continued.past {answer : Answer} (continued : Continued answer task next)
    (deep : depth ≤ task.waiting.length) : next.Past depth := by
  cases continued with
  | finished | telling =>
    rcases Nat.lt_or_eq_of_le deep with deeper | rfl
    · exact .inl deeper
    · exact .inr ⟨rfl, trivial⟩
  | calling => exact .inl (Nat.lt_succ_of_le deep)

theorem Moved.past (moved : Moved service state task after next) (past : task.Past depth)
    (going : task.ended? depth = none) : next.Past depth := by
  rcases past with deeper | ⟨rfl, phase⟩
  · cases moved with
    | announced _ _ continued | told _ _ continued => exact continued.past (Nat.le_of_lt deeper)
    | returned _ waits _ continued =>
      rw [waits] at deeper
      exact continued.past (Nat.le_of_lt_succ deeper)
    | blocked | answered | entered | resumed | loaded | queried | prepared | abandoned | saved | idle =>
      exact .inl deeper
  · cases moved with
    | announced _ _ continued | told _ _ continued => exact continued.past (Nat.le_refl _)
    | returned ended | idle ended => simp [Task.ended?, ended] at going
    | blocked waits | answered waits | entered waits | resumed waits =>
      split at phase <;> simp_all [Phase.Waits]
    | loaded earlier | queried earlier | prepared earlier | saved earlier => simp [earlier] at phase
    | abandoned unsaved => rcases unsaved with loads | ⟨old, new, saves⟩ <;> simp_all

/-- What a step leaves that belongs to a failing call: rows and all else of the store, registrations, what was
told, and what is known. At most the XP that the store has becomes known. -/
structure Spared (identity : Identity) (before after : State L) : Prop where
  store : after.store = before.store
  channels : after.channels = before.channels
  deliveries : after.deliveries = before.deliveries
  cache : after.cache = before.cache ∨
    before.cache.get? identity = none ∧ after.cache = before.cache.put identity (before.stored identity)

/-- A step after which the call can still fail has changed nothing. -/
theorem Moved.spared (moved : Moved service state task after next)
    (going : task.ended? task.waiting.length = none) (early : ¬ next.Past task.waiting.length)
    (standing : Standing service.formula (state.account task.identity) task) :
    Spared task.identity state after := by
  cases moved with
  | blocked | entered | resumed | loaded | abandoned => exact ⟨rfl, rfl, rfl, .inl rfl⟩
  | prepared loaded =>
    simp only [Standing, loaded] at standing
    obtain ⟨-, unknown, rfl⟩ := standing
    exact ⟨rfl, rfl, rfl, .inr ⟨unknown, rfl⟩⟩
  | answered | queried | saved => exact absurd (.inr ⟨rfl, trivial⟩) early
  | announced _ _ continued | told _ _ continued => exact absurd (continued.past (Nat.le_refl _)) early
  | returned ended | idle ended => simp [Task.ended?, ended] at going

theorem Moved.released (moved : Moved service state task after next) {fault : StoreFault}
    (going : task.ended? task.waiting.length = none) (failed : next.ended? task.waiting.length = some (.error fault)) :
    task.identity ∉ after.locked := by
  have early : ¬ next.Past task.waiting.length := fun past => past.ended? failed
  cases moved with
  | abandoned => simp [unlock]
  | blocked | entered | resumed | loaded | prepared => simp [Task.ended?] at failed
  | answered | queried | saved => exact absurd (.inr ⟨rfl, trivial⟩) early
  | announced _ _ continued | told _ _ continued => exact absurd (continued.past (Nat.le_refl _)) early
  | returned ended | idle ended => simp [Task.ended?, ended] at going

variable [DecidableEq L] {world : World L} {index : Nat}

/-- What the call of a task leads to along a schedule, if it comes to its end; `depth` calls wait for it. -/
def World.fate (service : Service L) (index depth : Nat) (world : World L) :
    List (Nat × Outage) → Option Outcome
  | [] => world.tasks[index]?.bind (·.ended? depth)
  | (turn, outage) :: rest =>
    (world.tasks[index]?.bind (·.ended? depth)).or (fate service index depth (world.step service turn outage) rest)

theorem World.fate_of_past (schedule : List (Nat × Outage)) (present : world.tasks[index]? = some task)
    (past : task.Past depth) {fault : StoreFault} :
    world.fate service index depth schedule ≠ some (.error fault) := by
  induction schedule generalizing world task with
  | nil =>
    simp only [fate, present, Option.bind_some]
    exact past.ended?
  | cons turn rest ih =>
    simp only [fate, present, Option.bind_some]
    cases going : task.ended? depth with
    | some outcome =>
      rw [Option.some_or, ← going]
      exact past.ended?
    | none =>
      rw [Option.none_or]
      by_cases own : index = turn.1
      · subst own
        obtain ⟨after, next, moved, becomes⟩ := World.step_of_present service turn.2 present
        rw [becomes]
        exact ih (by simp [getElem?_set_of_some present]) (moved.past past going)
      · refine ih ?_ past
        rw [World.step_of_other own]
        exact present

end Failures

section NextCall

variable {service : Service L} {state after : State L} {task next : Task L}

/-- How a call stands that has come to its turn when the store has an amount of XP. -/
def GoesOn (service : Service L) (request : Request) (xp : Int) : Phase L → Prop
  | .loading => True
  | .saving old new => old = xp ∧ ∃ mutation, request = .change mutation ∧ new = mutation.apply service.formula xp
  | .finished outcome =>
    ∃ query, request = .ask query ∧ outcome = .ok (query.answer service.formula service.ranks xp)
  | _ => False

theorem Moved.goesOn (moved : Moved service state task after next) (waits : task.phase.Waits)
    (free : task.identity ∉ state.locked) (agrees : (state.account task.identity).Agrees) :
    GoesOn service task.call.request (state.stored task.identity) next.phase := by
  cases moved with
  | blocked _ taken => exact absurd taken free
  | @answered query xp _ asks known => exact ⟨query, asks, by rw [agrees free xp known]; rfl⟩
  | entered => trivial
  | @resumed mutation xp _ _ changes known =>
    obtain rfl : xp = state.stored task.identity := agrees free xp known
    exact ⟨rfl, mutation, changes, rfl⟩
  | loaded earlier | queried earlier | prepared earlier | saved earlier | announced earlier | told earlier
  | returned earlier | idle earlier => simp [earlier, Phase.Waits] at waits
  | abandoned unsaved =>
    rcases unsaved with loads | ⟨old, new, saves⟩ <;> simp_all [Phase.Waits]

end NextCall

section Main

variable [DecidableEq L] {service : Service L} {world : World L} {index : Nat} {task : Task L} {outage : Outage}
  {fault : StoreFault}

theorem Consistent.spared (consistent : Consistent service world) (present : world.tasks[index]? = some task)
    (going : task.ended? task.waiting.length = none) {rest : List (Nat × Outage)}
    (failing : (world.step service index outage).fate service index task.waiting.length rest = some (.error fault)) :
    Spared task.identity world.state (world.step service index outage).state := by
  obtain ⟨after, next, moved, becomes⟩ := World.step_of_present service outage present
  rw [becomes] at failing ⊢
  refine moved.spared going (fun past => ?_) (consistent.standing present)
  exact World.fate_of_past rest (by simp [getElem?_set_of_some present]) past failing

theorem World.free_of_failed (present : world.tasks[index]? = some task)
    (going : task.ended? task.waiting.length = none) {failed : Task L}
    (stands : (world.step service index outage).tasks[index]? = some failed)
    (failure : failed.ended? task.waiting.length = some (.error fault)) :
    task.identity ∉ (world.step service index outage).state.locked := by
  obtain ⟨after, next, moved, becomes⟩ := World.step_of_present service outage present
  rw [becomes] at stands ⊢
  rw [getElem?_set_of_some present, if_pos rfl] at stands
  cases stands
  exact moved.released going failure

theorem Consistent.goesOn (consistent : Consistent service world) (present : world.tasks[index]? = some task)
    (waits : task.phase.Waits) (free : task.identity ∉ world.state.locked) :
    ∃ next, (world.step service index outage).tasks[index]? = some next ∧
      GoesOn service task.call.request (world.state.stored task.identity) next.phase := by
  obtain ⟨after, next, moved, becomes⟩ := World.step_of_present service outage present
  refine ⟨next, ?_, moved.goesOn waits free (consistent.agrees _)⟩
  rw [becomes]
  simp [getElem?_set_of_some present]

/-- Whatever calls there are, and whichever uses of the store fail: while the lock of an identity is free, what
is known of it is what the store has, and whoever has the lock works on from what the store has. A call that
fails spares all else in each of its steps; with its failure the lock is free, and whoever comes next goes on
from the XP that the store had. -/
theorem cache_follows_store (service : Service L) (store : Store) (channels : Channels L) (calls : List Call)
    (schedule : List (Nat × Outage)) :
    let world := (World.begin { store, channels } calls).run service schedule
    (∀ identity xp, identity ∉ world.state.locked → world.state.cache.get? identity = some xp →
      xp = world.state.stored identity) ∧
    (∀ task ∈ world.tasks, ∀ xp, (task.phase = .loaded xp ∨ ∃ new, task.phase = .saving xp new) →
      xp = world.state.stored task.identity) ∧
    ∀ (index : Nat) (task : Task L) (outage : Outage) (rest : List (Nat × Outage)) (fault : StoreFault),
      world.tasks[index]? = some task → task.ended? task.waiting.length = none →
      let later := world.step service index outage
      later.fate service index task.waiting.length rest = some (.error fault) →
        Spared task.identity world.state later.state ∧
        ∀ failed, later.tasks[index]? = some failed → failed.ended? task.waiting.length = some (.error fault) →
          task.identity ∉ later.state.locked ∧
          ∀ (other : Nat) (rival : Task L) (anew : Outage), later.tasks[other]? = some rival →
            rival.phase.Waits → rival.identity = task.identity →
            ∃ next, (later.step service other anew).tasks[other]? = some next ∧
              GoesOn service rival.call.request (world.state.stored task.identity) next.phase := by
  intro world
  have settled : ({ store, channels } : State L).Settled := ⟨rfl, fun _ _ known => nomatch known⟩
  have consistent : Consistent service world := (settled.consistent calls).run schedule
  refine ⟨fun identity xp free known => consistent.agrees identity free xp known, fun task member xp phase => ?_, ?_⟩
  · obtain ⟨index, present⟩ := List.mem_iff_getElem?.1 member
    have standing := consistent.standing present
    rcases phase with loaded | ⟨new, saves⟩
    · simp only [Standing, loaded] at standing
      exact standing.2.2
    · simp only [Standing, saves] at standing
      exact standing.2.2.1
  · intro index task outage rest fault present going later failing
    have spared := consistent.spared present going failing
    refine ⟨spared, fun failed stands failure => ?_⟩
    have free := World.free_of_failed present going stands failure
    refine ⟨free, fun other rival anew stands waits same => ?_⟩
    -- The rows are as they were, so that what the store has now it had before the failure.
    have stored : later.state.stored rival.identity = world.state.stored task.identity := by
      rw [same, State.stored, State.stored, spared.store]
    rw [← stored]
    exact (consistent.step index outage).goesOn stands waits (same ▸ free)

end Main

/-- A service none of whose listeners does anything. -/
def quiet : Service Unit where
  formula := .hundredEach
  ranks := .empty
  react := fun _ _ _ => .finish

/-- Nobody has called yet, and the store has 500 XP of one identity. -/
def quietStart : State Unit where
  store := { rows := .ofList [("a", 500)] }
  channels := {}

/-- An identity with 500 XP; the store fails when 30 more are saved, and the XP is asked for next. -/
theorem cache_follows_store_failed_save :
    let world := (World.begin quietStart [⟨"a", .change (.addXp 30)⟩, ⟨"a", .ask .xp⟩]).run quiet
      [(0, {}), (0, {}), (0, {})]
    let later := world.step quiet 0 { save := some .closed }
    Spared "a" world.state later.state ∧ "a" ∉ later.state.locked ∧
      ∃ next, (later.step quiet 1 {}).tasks[1]? = some next ∧ GoesOn quiet (.ask .xp) 500 next.phase := by
  obtain ⟨-, -, failing⟩ := cache_follows_store quiet quietStart.store quietStart.channels
    [⟨"a", .change (.addXp 30)⟩, ⟨"a", .ask .xp⟩] [(0, {}), (0, {}), (0, {})]
  obtain ⟨spared, failed⟩ := failing 0 ⟨⟨"a", .change (.addXp 30)⟩, .saving 500 530, []⟩ { save := some .closed }
    [] .closed rfl rfl rfl
  obtain ⟨free, next⟩ := failed ⟨⟨"a", .change (.addXp 30)⟩, .finished (.error .closed), []⟩ rfl rfl
  exact ⟨spared, free, next 1 ⟨⟨"a", .ask .xp⟩, .fresh, []⟩ {} rfl trivial rfl⟩

end Service

end Progression
