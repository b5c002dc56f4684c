import Progression.Migration.Basic

/-!
Rewriting rows in a scope. The floor of each level is looked up once; rewritten rows are staged in batches,
and what is left of the last batch before the staged rows are applied.
-/

namespace Progression.Migration

/-- The uses of the store that a migration makes, in order. -/
inductive StoreUse where
  | readKind
  | readParams
  | openScope
  /-- Read the row after a number of rows. -/
  | stream (done : Nat)
  /-- Stage the batch after a number of batches. -/
  | stage (done : Nat)
  | apply
  | commit
  /-- Write the new descriptor. -/
  | record
  deriving DecidableEq, Repr

/-- What the uses of the store fail with, whatever its state. A time that runs out fails the use of the store
that it interrupts. -/
abbrev Mishaps := StoreUse → Option StoreFault

/-- A use of the store that fails if a mishap befalls it. -/
def Mishaps.guard (mishaps : Mishaps) (use : StoreUse) : Except StoreFault Unit :=
  match mishaps use with
  | some fault => .error fault
  | none => .ok ()

/-- What a fault of the store means while rows are rewritten. -/
def Fault.ofStore (migration : Migration) (fault : StoreFault) : Fault :=
  if fault.kind = .timeout then .expired migration.pace.timeout else .rewriting fault

/-- The floor of a level under the new formula, if it leads back to the level. -/
def target (migration : Migration) (level : Nat) : Except Fault Int :=
  let floor := migration.formula.xpForLevel level
  if migration.formula.levelForXp floor = level then .ok floor
  else .error (.notPreserved level migration.formula.kind migration.formula.maxLevel)

/-- The work done in a scope so far. -/
structure Rewrite where
  scope : Scope
  /-- The floors of the levels met. -/
  targets : Entries Nat Int := ∅
  /-- Rewritten rows that are not staged yet. -/
  batch : List (Identity × Int) := []
  staged : Nat := 0
  processed : Nat := 0
  reports : List (Nat × Bool) := []

namespace Rewrite

/-- The floor of a level, known or looked up. -/
def targetOf (migration : Migration) (rewrite : Rewrite) (level : Nat) : Except Fault Int :=
  match rewrite.targets.get? level with
  | some floor => .ok floor
  | none => migration.target level

/-- Stage the batch. -/
def flush (migration : Migration) (mishaps : Mishaps) (rewrite : Rewrite) : Except Fault Rewrite := do
  (mishaps.guard (.stage rewrite.staged)).mapError (.ofStore migration)
  let scope ← (rewrite.scope.stage rewrite.batch).mapError (.ofStore migration)
  return { rewrite with scope, batch := [], staged := rewrite.staged + 1 }

/-- Rewrite one more row. -/
def add (migration : Migration) (old : Formula) (mishaps : Mishaps) (rewrite : Rewrite)
    (row : Identity × Int) : Except Fault Rewrite := do
  (mishaps.guard (.stream rewrite.processed)).mapError (.ofStore migration)
  let level := old.levelForXp row.2
  let floor ← rewrite.targetOf migration level
  let added := { rewrite with
    targets := rewrite.targets.put level floor
    batch := rewrite.batch ++ [(row.1, floor)] }
  let staged ← if migration.pace.batchSize ≤ added.batch.length then added.flush migration mishaps
    else pure added
  let processed := staged.processed + 1
  return { staged with processed, reports := migration.report staged.reports processed }

/-- Rewrite rows, up to the end or to a fault; gives the work done before the fault. -/
def addAll (migration : Migration) (old : Formula) (mishaps : Mishaps) (rewrite : Rewrite) :
    List (Identity × Int) → Rewrite × Option Fault
  | [] => (rewrite, none)
  | row :: rest =>
    match rewrite.add migration old mishaps row with
    | .ok rewrite => addAll migration old mishaps rewrite rest
    | .error fault => (rewrite, some fault)

/-- Stage what is left, and apply what is staged. -/
def close (migration : Migration) (mishaps : Mishaps) (rewrite : Rewrite) : Except Fault Rewrite := do
  let flushed ← if rewrite.batch.isEmpty then pure rewrite else rewrite.flush migration mishaps
  (mishaps.guard .apply).mapError (.ofStore migration)
  let (scope, _) ← flushed.scope.apply.mapError (.ofStore migration)
  return { flushed with scope }

end Rewrite

end Progression.Migration
