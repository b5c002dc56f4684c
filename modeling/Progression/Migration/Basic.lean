import Progression.Descriptor.Rebuild
import Progression.Store.Scope

namespace Progression

/-- Whether and in what portions a migration rewrites rows. -/
structure Pace where
  enabled : Bool := true
  /-- The number of rows that are staged together. -/
  batchSize : Nat := 10000
  batchSize_pos : 1 ≤ batchSize := by decide
  /-- A report is due each time that this number of rows is done. -/
  progressEvery : Nat := 50000
  progressEvery_pos : 1 ≤ progressEvery := by decide
  /-- The seconds that rewriting may take, as they are given. -/
  timeout : Value := .null

/-- A batch size below one. -/
structure PaceFault where
  batchSize : Int
  deriving DecidableEq, Repr

def PaceFault.message (fault : PaceFault) : String :=
  "batch_size must be >= 1, got " ++ toString fault.batchSize

namespace Pace

theorem toNat_pos {n : Int} (positive : 1 ≤ n) : 1 ≤ n.toNat := by omega

/-- The pace with given numbers; reports are due at least at every row. -/
def make? (enabled : Bool) (batchSize progressEvery : Int) (timeout : Value) : Except PaceFault Pace :=
  if positive : 1 ≤ batchSize then .ok {
    enabled
    batchSize := batchSize.toNat
    batchSize_pos := toNat_pos positive
    progressEvery := (max 1 progressEvery).toNat
    progressEvery_pos := toNat_pos (Int.le_max_left 1 progressEvery)
    timeout }
  else .error ⟨batchSize⟩

/-- Whether the time is over before rewriting begins. -/
def expired (pace : Pace) : Bool :=
  match pace.timeout with
  | .int seconds => seconds ≤ 0
  | .float seconds => seconds ≤ 0
  | _ => false

end Pace

/-- A migration to a formula; the tables of old formulas are in the files of a directory. -/
structure Migration where
  formula : Formula
  directory : Directory
  pace : Pace := {}
  /-- Who is told of the number of rows done, and whether that fails. -/
  observer : Option (Nat → Bool) := none

/-- The descriptor that a kind and parameters in a store make, if both are there. -/
def Descriptor.ofEntries? (kind params : Option String) : Option Descriptor := do
  return ⟨← kind, ← params⟩

/-- The descriptor of the formula that made the XP in a store. -/
def Store.readDescriptor (store : Store) : Except StoreFault (Option Descriptor) := do
  let kind ← store.readEntry kindKey
  let params ← store.readEntry paramsKey
  return Descriptor.ofEntries? kind params

namespace Migration

def descriptor (migration : Migration) : Descriptor := .describe migration.formula

/-- Tell the observer of a number of rows; its failure is kept in the reports and stops nothing. -/
def report (migration : Migration) (reports : List (Nat × Bool)) (processed : Nat) : List (Nat × Bool) :=
  match migration.observer with
  | none => reports
  | some tell => if processed % migration.pace.progressEvery = 0 then reports ++ [(processed, tell processed)]
    else reports

inductive Status where
  /-- Migrations are not wanted. -/
  | disabled
  /-- There was no formula before. -/
  | adopted
  /-- The formula is the one before. -/
  | unchanged
  | migrated
  deriving DecidableEq, Repr

def Status.name : Status → String
  | disabled => "disabled"
  | adopted => "bootstrapped"
  | unchanged => "unchanged"
  | migrated => "migrated"

structure Result where
  status : Status
  rows : Nat := 0
  levels : Nat := 0
  previous : Option Descriptor := none
  deriving DecidableEq, Repr

inductive Fault where
  /-- The store fails outside of rewriting. -/
  | store (fault : StoreFault)
  /-- The old formula cannot be built. -/
  | old (fault : BuildFault)
  /-- The new formula gives a level no floor that leads back to it. -/
  | notPreserved (level : Nat) (kind : FormulaKind) (maxLevel : Nat)
  /-- Rewriting took too long. -/
  | expired (timeout : Value)
  /-- The store fails while rows are rewritten. -/
  | rewriting (fault : StoreFault)

namespace Fault

def kind : Fault → FaultKind
  | store fault => fault.kind
  | old fault => fault.kind
  | _ => .migration

def message : Fault → String
  | store fault => fault.message
  | old fault => fault.message
  | notPreserved level kind maxLevel =>
    "Level " ++ toString level ++ " cannot be preserved by the new " ++ kind.name
      ++ " formula (max level " ++ toString maxLevel ++ ")"
  | expired timeout => "Formula migration exceeded " ++ timeout.display ++ "s and was rolled back"
  | rewriting _ => "Failed to migrate XP to preserve levels"

/-- The kind of the fault behind a fault. -/
def cause? : Fault → Option FaultKind
  | old fault => fault.cause?
  | expired _ => some .timeout
  | rewriting fault => some fault.kind
  | _ => none

end Fault

end Migration

end Progression
