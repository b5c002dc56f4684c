import Progression.Migration.Rewrite

/-!
Migrations, step by step. A migration reads the descriptor in the store, rebuilds the old formula from it,
rewrites the rows in a scope, leaves the scope, and only then records the new descriptor. One scope is open at
a time; rows and descriptor are two writes. A step ends wherever another task may come in between.
-/

namespace Progression.Migration

/-- How far a migration has come. -/
inductive Phase where
  | fresh
  /-- The kind in the store is read. -/
  | kindRead (kind : Option String)
  /-- There is no formula in the store. -/
  | adopting
  /-- The scope is to be opened. -/
  | opening (previous : Descriptor) (old : Formula)
  /-- Rows are left to be rewritten, or all are. -/
  | rewriting (previous : Descriptor) (old : Formula) (rest : List (Identity × Int)) (rewrite : Rewrite)
  /-- The scope is to be left. -/
  | committing (previous : Descriptor) (rewrite : Rewrite)
  /-- The rows are rewritten, and the descriptor is to be recorded. -/
  | recording (previous : Descriptor) (rewrite : Rewrite)
  | finished (result : Except Fault Result) (reports : List (Nat × Bool))

namespace Phase

/-- The result of a migration that is over. -/
def result? : Phase → Option (Except Fault Result)
  | finished result _ => some result
  | _ => none

/-- The reports of a migration that is over. -/
def reports : Phase → List (Nat × Bool)
  | finished _ reports => reports
  | _ => []

end Phase

/-- What migrations share: the store, and whether a scope of it is open. -/
structure Shared where
  store : Store
  scopeOpen : Bool := false

/-- End with a fault. -/
def give (fault : Fault) (reports : List (Nat × Bool)) : Phase := .finished (.error fault) reports

/-- What the descriptor in the store, or none, leads to. -/
def settle (migration : Migration) : Option Descriptor → Phase
  | none => .adopting
  | some previous =>
    if previous = migration.descriptor then
      .finished (.ok { status := .unchanged, previous := some previous }) []
    else
      match previous.rebuild migration.directory with
      | .error fault => give (.old fault) []
      | .ok old =>
        if migration.pace.expired then give (.expired migration.pace.timeout) [] else .opening previous old

def readKind (mishaps : Mishaps) (store : Store) : Phase :=
  match (do mishaps.guard .readKind; store.readEntry kindKey) with
  | .error fault => give (.store fault) []
  | .ok kind => .kindRead kind

def readParams (migration : Migration) (mishaps : Mishaps) (store : Store) (kind : Option String) : Phase :=
  match (do mishaps.guard .readParams; store.readEntry paramsKey) with
  | .error fault => give (.store fault) []
  | .ok params => settle migration (Descriptor.ofEntries? kind params)

/-- Write the new descriptor, which ends the migration. -/
def record (migration : Migration) (mishaps : Mishaps) (shared : Shared) (result : Result)
    (reports : List (Nat × Bool)) : Shared × Phase :=
  let entries := Entries.ofList migration.descriptor.entries
  match (do mishaps.guard .record; shared.store.writeEntries entries) with
  | .error fault => (shared, give (.store fault) reports)
  | .ok store => ({ shared with store }, .finished (.ok result) reports)

/-- Open the scope, if no other one is open. -/
def openScope (migration : Migration) (mishaps : Mishaps) (shared : Shared) (previous : Descriptor)
    (old : Formula) : Shared × Phase :=
  if shared.scopeOpen then (shared, .opening previous old)
  else
    match (do
      mishaps.guard .openScope
      let scope ← shared.store.openScope
      return (scope, ← scope.stream)) with
    | .error fault => (shared, give (.ofStore migration fault) [])
    | .ok (scope, rows) => ({ shared with scopeOpen := true }, .rewriting previous old rows { scope })

/-- One step. Rows are rewritten by a number of them at a time. -/
def step (migration : Migration) (mishaps : Mishaps) (count : Nat) (shared : Shared) :
    Phase → Shared × Phase
  | .fresh =>
    if migration.pace.enabled then (shared, readKind mishaps shared.store)
    else (shared, .finished (.ok { status := .disabled }) [])
  | .kindRead kind => (shared, readParams migration mishaps shared.store kind)
  | .adopting => record migration mishaps shared { status := .adopted } []
  | .opening previous old => openScope migration mishaps shared previous old
  | .rewriting previous _ [] rewrite =>
    match rewrite.close migration mishaps with
    | .error fault => ({ shared with scopeOpen := false }, give fault rewrite.reports)
    | .ok rewrite => (shared, .committing previous rewrite)
  | .rewriting previous old rest rewrite =>
    match rewrite.addAll migration old mishaps (rest.take count) with
    | (rewrite, some fault) => ({ shared with scopeOpen := false }, give fault rewrite.reports)
    | (rewrite, none) => (shared, .rewriting previous old (rest.drop count) rewrite)
  | .committing previous rewrite =>
    match mishaps .commit with
    | some fault => ({ shared with scopeOpen := false }, give (.ofStore migration fault) rewrite.reports)
    | none => (⟨shared.store.commit rewrite.scope, false⟩, .recording previous rewrite)
  | .recording previous rewrite =>
    record migration mishaps shared
      ⟨.migrated, rewrite.processed, rewrite.targets.size, some previous⟩ rewrite.reports
  | .finished result reports => (shared, .finished result reports)

/-- Migrations that take turns on one store. -/
structure World where
  shared : Shared
  tasks : List (Migration × Phase)

/-- Let the migration with an index take a step. -/
def World.step (world : World) (index : Nat) (mishaps : Mishaps) (count : Nat) : World :=
  match world.tasks[index]? with
  | none => world
  | some (migration, phase) =>
    let (shared, phase) := migration.step mishaps count world.shared phase
    ⟨shared, world.tasks.set index (migration, phase)⟩

/-- Let migrations take steps as a schedule says: which one, what befalls it, and the number of rows. -/
def World.run (world : World) (schedule : List (Nat × Mishaps × Nat)) : World :=
  schedule.foldl (fun world (index, mishaps, count) => world.step index mishaps count) world

end Progression.Migration
