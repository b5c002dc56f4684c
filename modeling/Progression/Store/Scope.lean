import Progression.Store.Basic

/-!
Scopes: rewriting rows as a whole. A scope sees the rows as they were when it was opened. Staged amounts
stay apart until they are applied, and what was applied last is written when the scope is left in good order;
a scope that is left by a fault writes nothing.
-/

namespace Progression

/-- A scope that is open. -/
structure Scope where
  kind : StoreKind
  intact : Bool
  /-- The rows when the scope was opened. -/
  snapshot : Entries Identity Int
  staged : Entries Identity Int := ∅
  applied : Entries Identity Int := ∅

namespace Scope

/-- The rows that the scope sees; in a durable store, what it applied is among them. -/
def stream (scope : Scope) : Except StoreFault (List (Identity × Int)) :=
  match scope.kind with
  | .memory => .ok scope.snapshot.pairs
  | .durable =>
    if scope.intact then .ok (scope.snapshot.putAll scope.applied.pairs).pairs else .error .scope

/-- The rows, counted off in batches. In memory, counting by zero fails at the first row. -/
def streamBy (scope : Scope) (batchSize : Int) : Except StoreFault (List (Identity × Int)) := do
  let rows ← scope.stream
  if scope.kind = .memory ∧ batchSize = 0 ∧ !rows.isEmpty then throw .countByZero
  return rows

/-- What staging an identity again leads to. -/
def repetition (scope : Scope) (identity : Identity) : StoreFault :=
  match scope.kind with
  | .memory => .stagedTwice identity
  | .durable => .scope

/-- Stage rows; each identity may be staged once. -/
def stage (scope : Scope) : List (Identity × Int) → Except StoreFault Scope
  | [] => .ok scope
  | (identity, xp) :: rest =>
    if scope.staged.contains identity then .error (scope.repetition identity)
    else if scope.kind.holds xp then stage { scope with staged := scope.staged.put identity xp } rest
    else .error .pastRange

/-- Apply what is staged to the rows that there are; gives also their number. -/
def apply (scope : Scope) : Except StoreFault (Scope × Nat) :=
  if scope.intact then
    let applied := scope.staged.filter fun identity _ => scope.snapshot.contains identity
    .ok ({ scope with applied }, applied.size)
  else .error .scope

end Scope

namespace Store

def openScope (store : Store) : Except StoreFault Scope :=
  if store.closed then .error .closed else .ok ⟨store.kind, store.intact, store.rows, ∅, ∅⟩

theorem openScope_ok {store : Store} {scope : Scope} {seen : List (Identity × Int)}
    (opened : store.openScope = .ok scope) (streamed : scope.stream = .ok seen) :
    scope.snapshot = store.rows ∧ scope.staged = ∅ ∧ seen = store.rows.pairs := by
  rw [openScope] at opened
  split at opened
  · cases opened
  · cases opened
    rw [Scope.stream] at streamed
    split at streamed
    · cases streamed
      exact ⟨rfl, rfl, rfl⟩
    · split at streamed
      · cases streamed
        exact ⟨rfl, rfl, rfl⟩
      · cases streamed

/-- Write what a scope applied. -/
def commit (store : Store) (scope : Scope) : Store :=
  { store with rows := store.rows.putAll scope.applied.pairs }

/-- Work in a scope, and write what it applied unless the work fails. The work may also use the store. -/
def transact {ε α : Type} (store : Store) (work : Scope → Store → Except ε (α × Scope) × Store) :
    Except StoreFault (Except ε α × Store) := do
  let scope ← store.openScope
  match work scope store with
  | (.ok (result, scope), store) => return (.ok result, store.commit scope)
  | (.error fault, store) => return (.error fault, store)

end Store

end Progression
