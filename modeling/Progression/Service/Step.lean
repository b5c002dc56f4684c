import Progression.Service.Telling

/-!
Calls of a service, step by step. A call takes the lock of its identity, loads the XP unless it is known,
saves the changed XP, and only then makes it known and gives up the lock; listeners are told afterwards. A
step ends wherever another task may come in between: before and after each use of the store, and where a
listener waits.
-/

namespace Progression

/-- How far a call has come. -/
inductive Phase (L : Type) where
  | fresh
  /-- The lock is to be taken. -/
  | queued
  /-- The lock is held, and the XP is to be loaded. -/
  | loading
  /-- The store gave the XP. -/
  | loaded (xp : Int)
  /-- The XP is to be saved. -/
  | saving (old new : Int)
  /-- The store has the new XP. -/
  | saved (old new : Int)
  /-- A listener waits; the answer is settled. -/
  | telling (answer : Answer) (reaction : Reaction L) (rest : Telling L)
  | finished (outcome : Outcome)

/-- A call one of whose listeners waits for another call. -/
structure Waiting (L : Type) where
  call : Call
  answer : Answer
  resume : Outcome → Reaction L
  rest : Telling L

/-- A call in progress, and the calls whose listeners wait for it, the innermost first. -/
structure Task (L : Type) where
  call : Call
  phase : Phase L := .fresh
  waiting : List (Waiting L) := []

/-- What the store fails with if it is used in a step, whatever its state. -/
structure Outage where
  load : Option StoreFault := none
  save : Option StoreFault := none

namespace Service

variable {L : Type} [DecidableEq L]

def isLocked (state : State L) (identity : Identity) : Bool := state.locked.contains identity

def lock (state : State L) (identity : Identity) : State L :=
  { state with locked := identity :: state.locked }

def unlock (state : State L) (identity : Identity) : State L :=
  { state with locked := state.locked.filter fun other => other ≠ identity }

/-- Make XP known. -/
def remember (state : State L) (identity : Identity) (xp : Int) : State L :=
  { state with cache := state.cache.put identity xp }

/-- Go on with the XP known and the lock held: a query is answered, a change is to be saved. -/
def proceed (service : Service L) (state : State L) (task : Task L) (xp : Int) : State L × Task L :=
  match task.call.request with
  | .ask query =>
    (unlock state task.call.identity,
      { task with phase := .finished (.ok (query.answer service.formula service.ranks xp)) })
  | .change mutation => (state, { task with phase := .saving xp (mutation.apply service.formula xp) })

/-- Take the lock if it is free. -/
def acquire (service : Service L) (state : State L) (task : Task L) : State L × Task L :=
  if isLocked state task.call.identity then (state, { task with phase := .queued })
  else
    let state := lock state task.call.identity
    match state.cache.get? task.call.identity with
    | some xp => proceed service state task xp
    | none => (state, { task with phase := .loading })

/-- Begin a call. A query about XP that is known needs no lock. -/
def begin (service : Service L) (state : State L) (task : Task L) : State L × Task L :=
  match task.call.request, state.cache.get? task.call.identity with
  | .ask query, some xp =>
    (state, { task with phase := .finished (.ok (query.answer service.formula service.ranks xp)) })
  | _, _ => acquire service state task

/-- End a call with a fault of the store. -/
def abandon (state : State L) (task : Task L) (fault : StoreFault) : State L × Task L :=
  (unlock state task.call.identity, { task with phase := .finished (.error fault) })

/-- Load the XP; an identity without a row has none. -/
def load (outage : Outage) (state : State L) (task : Task L) : State L × Task L :=
  match outage.load with
  | some fault => abandon state task fault
  | none =>
    match state.store.load task.call.identity with
    | .error fault => abandon state task fault
    | .ok xp => (state, { task with phase := .loaded (xp.getD 0) })

/-- Save the changed XP. -/
def save (outage : Outage) (state : State L) (task : Task L) (old new : Int) : State L × Task L :=
  match outage.save with
  | some fault => abandon state task fault
  | none =>
    match state.store.save task.call.identity new with
    | .error fault => abandon state task fault
    | .ok store => ({ state with store }, { task with phase := .saved old new })

/-- Where a task stands after telling. -/
def afterTelling (task : Task L) (answer : Answer) :
    State L × Option (Stop L × Telling L) → State L × Task L
  | (state, none) => (state, { task with phase := .finished (.ok answer) })
  | (state, some (.wait reaction, rest)) => (state, { task with phase := .telling answer reaction rest })
  | (state, some (.call call resume, rest)) =>
    (state, ⟨call, .fresh, ⟨task.call, answer, resume, rest⟩ :: task.waiting⟩)

/-- Make saved XP known, give up the lock, and tell of the change. -/
def announce (service : Service L) (state : State L) (task : Task L) (old new : Int) : State L × Task L :=
  let identity := task.call.identity
  let state := unlock (remember state identity new) identity
  match task.call.request with
  | .ask query =>
    (state, { task with phase := .finished (.ok (query.answer service.formula service.ranks new)) })
  | .change mutation =>
    afterTelling task (mutation.answer service.formula new)
      (tell service state (mutation.notices service.formula identity old new))

/-- One step of a task. A task whose lock is taken, or which is over, stays as it is. -/
def step (service : Service L) (outage : Outage) (state : State L) (task : Task L) : State L × Task L :=
  match task.phase with
  | .fresh => begin service state task
  | .queued => acquire service state task
  | .loading => load outage state task
  | .loaded xp => proceed service (remember state task.call.identity xp) task xp
  | .saving old new => save outage state task old new
  | .saved old new => announce service state task old new
  | .telling answer reaction rest => afterTelling task answer (goOn service state reaction rest)
  | .finished outcome =>
    match task.waiting with
    | [] => (state, task)
    | outer :: waiting =>
      afterTelling ⟨outer.call, .fresh, waiting⟩ outer.answer
        (goOn service state (outer.resume outcome) outer.rest)

end Service

namespace Task

variable {L : Type}

/-- What a task led to, if it is over. -/
def outcome? (task : Task L) : Option Outcome :=
  match task.phase, task.waiting with
  | .finished outcome, [] => some outcome
  | _, _ => none

end Task

namespace Service

variable {L : Type} [DecidableEq L]

/-- Let one task take steps, with no other task in between, until it is over. -/
def steps (service : Service L) (outage : Outage) : Nat → State L → Task L → State L × Task L
  | 0, state, task => (state, task)
  | count + 1, state, task =>
    match task.outcome? with
    | some _ => (state, task)
    | none =>
      let (state, task) := step service outage state task
      steps service outage count state task

/-- Perform a call alone. What it leads to is known if it is over within a number of steps. -/
def perform (service : Service L) (outage : Outage) (limit : Nat) (state : State L) (call : Call) :
    State L × Option Outcome :=
  let (state, task) := steps service outage limit state { call }
  (state, task.outcome?)

/-- Tasks that take turns on one service. -/
structure World (L : Type) where
  state : State L
  tasks : List (Task L)

/-- Let the task with an index take a step. -/
def World.step (service : Service L) (world : World L) (index : Nat) (outage : Outage) : World L :=
  match world.tasks[index]? with
  | none => world
  | some task =>
    let (state, task) := service.step outage world.state task
    ⟨state, world.tasks.set index task⟩

/-- Let tasks take steps as a schedule says. -/
def World.run (service : Service L) (world : World L) (schedule : List (Nat × Outage)) : World L :=
  schedule.foldl (fun world (index, outage) => world.step service index outage) world

end Service

end Progression
