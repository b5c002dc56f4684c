import Mathlib.Data.List.Range
import Progression.Proofs.Migration

namespace Progression.Migration

variable {migration : Migration} {old : Formula} {mishaps : Mishaps}

/-- Rewritten rows that are staged together. -/
abbrev Batch := List (Identity × Int)

/-- The reports that are due up to a number of rows. -/
def reportsUpTo (migration : Migration) (processed : Nat) : List (Nat × Bool) :=
  match migration.observer with
  | none => []
  | some tell =>
    ((List.range' 1 processed).filter (migration.pace.progressEvery ∣ ·)).map fun count => (count, tell count)

theorem reportsUpTo_zero : migration.reportsUpTo 0 = [] := by
  rw [reportsUpTo]
  split <;> rfl

theorem report_reportsUpTo {processed : Nat} :
    migration.report (migration.reportsUpTo processed) (processed + 1) = migration.reportsUpTo (processed + 1) := by
  rw [report, reportsUpTo, reportsUpTo]
  cases migration.observer with
  | none => rfl
  | some tell =>
    simp only [List.range'_concat, List.filter_append, List.map_append, Nat.one_mul, Nat.add_comm 1 processed]
    split
    · rename_i due
      simp [Nat.dvd_of_mod_eq_zero due]
    · rename_i due
      simp [Nat.dvd_iff_mod_eq_zero, due]

namespace Rewrite

/-- The batch that is staged if it is full. -/
def full? (migration : Migration) (rewrite : Rewrite) : Option Batch :=
  if migration.pace.batchSize ≤ rewrite.batch.length then some rewrite.batch else none

variable {rewrite next : Rewrite} {log : List Batch}

/-- The batch that one more row fills, if it does. -/
def filled? (migration : Migration) (old : Formula) (rewrite : Rewrite) (row : Identity × Int) : Option Batch :=
  match rewrite.targetOf migration (old.levelForXp row.2) with
  | .error _ => none
  | .ok floor => (rewrite.await row.1 (old.levelForXp row.2) floor).full? migration

/-- The batches that are staged while rows are rewritten, up to the end or to a fault. -/
def filledBy (migration : Migration) (old : Formula) (mishaps : Mishaps) (rewrite : Rewrite) :
    List (Identity × Int) → List Batch
  | [] => []
  | row :: rest =>
    match rewrite.add migration old mishaps row with
    | .error _ => []
    | .ok next => (rewrite.filled? migration old row).toList ++ next.filledBy migration old mishaps rest

/-- The batch that is staged when no row is left, if rows wait. -/
def leftover (rewrite : Rewrite) : List Batch := if rewrite.batch.isEmpty then [] else [rewrite.batch]

/-- What the work done says of a log of the batches that were staged, and of the reports. -/
structure Logged (migration : Migration) (log : List Batch) (rewrite : Rewrite) : Prop where
  staged : rewrite.scope.staged.pairs = log.flatten
  counted : rewrite.staged = log.length
  told : rewrite.reports = migration.reportsUpTo rewrite.processed

theorem logged_start {scope : Scope} (fresh : scope.staged = ∅) : Logged migration [] { scope } := by
  refine ⟨?_, rfl, reportsUpTo_zero.symm⟩
  rw [fresh]
  rfl

theorem Logged.flush (logged : Logged migration log rewrite) (success : rewrite.flush migration mishaps = .ok next) :
    Logged migration (log ++ [rewrite.batch]) next := by
  obtain ⟨staged, same, rfl⟩ := flush_ok success
  refine ⟨?_, ?_, logged.told⟩
  · rw [List.flatten_concat, ← logged.staged]
    exact same
  · rw [List.length_append, ← logged.counted]
    rfl

theorem Logged.gather (logged : Logged migration log rewrite) (success : rewrite.gather migration mishaps = .ok next) :
    Logged migration (log ++ (rewrite.full? migration).toList) next := by
  rw [Rewrite.gather] at success
  rw [full?]
  split at success
  · rename_i full
    rw [if_pos full]
    exact logged.flush success
  · rename_i short
    cases success
    rw [if_neg short, Option.toList_none, List.append_nil]
    exact logged

theorem Logged.add {row : Identity × Int} (logged : Logged migration log rewrite)
    (success : rewrite.add migration old mishaps row = .ok next) :
    Logged migration (log ++ (rewrite.filled? migration old row).toList) next := by
  rw [add_eq] at success
  obtain ⟨_, _, success⟩ := bind_eq_ok.1 success
  obtain ⟨floor, known, success⟩ := bind_eq_ok.1 success
  obtain ⟨gathered, staged, success⟩ := bind_eq_ok.1 success
  have waits : Logged migration log (rewrite.await row.1 (old.levelForXp row.2) floor) :=
    ⟨logged.staged, logged.counted, logged.told⟩
  have kept := waits.gather staged
  cases success
  rw [filled?, known]
  refine ⟨kept.staged, kept.counted, ?_⟩
  rw [tally, kept.told]
  exact report_reportsUpTo

theorem Logged.addAll {rows : List (Identity × Int)} (logged : Logged migration log rewrite)
    (success : rewrite.addAll migration old mishaps rows = (next, none)) :
    Logged migration (log ++ rewrite.filledBy migration old mishaps rows) next := by
  induction rows generalizing rewrite log with
  | nil =>
    cases success
    rw [filledBy, List.append_nil]
    exact logged
  | cons row rest ih =>
    rw [Rewrite.addAll] at success
    rw [filledBy]
    cases added : rewrite.add migration old mishaps row with
    | error fault =>
      rw [added] at success
      cases success
    | ok extended =>
      rw [added] at success
      rw [← List.append_assoc]
      exact ih (logged.add added) success

theorem Logged.flatten_leftover (logged : Logged migration log rewrite) :
    (log ++ rewrite.leftover).flatten = rewrite.scope.staged.pairs ++ rewrite.batch := by
  rw [List.flatten_append, ← logged.staged, leftover]
  split
  · rename_i empty
    rw [List.isEmpty_iff.1 empty]
    rfl
  · rw [List.flatten_singleton]

theorem close_reports (success : rewrite.close migration mishaps = .ok next) : next.reports = rewrite.reports := by
  rw [close_eq] at success
  obtain ⟨cleared, staged, success⟩ := bind_eq_ok.1 success
  obtain ⟨_, _, success⟩ := bind_eq_ok.1 success
  obtain ⟨⟨scope, count⟩, applied, success⟩ := bind_eq_ok.1 success
  cases success
  rw [clear] at staged
  split at staged
  · cases staged
    rfl
  · obtain ⟨_, -, rfl⟩ := flush_ok staged
    rfl

end Rewrite

/-- The batches that are staged in a step. -/
def Phase.batches (migration : Migration) (mishaps : Mishaps) (count : Nat) : Phase → List Batch
  | .rewriting _ _ [] rewrite => rewrite.leftover
  | .rewriting _ old rest rewrite => rewrite.filledBy migration old mishaps (rest.take count)
  | _ => []

/-- The batches that are staged in a number of steps. -/
def batchesIn (migration : Migration) (mishaps : Mishaps) (rows : Nat) : Nat → Shared × Phase → List Batch
  | 0, _ => []
  | count + 1, state => state.2.batches migration mishaps rows
      ++ batchesIn migration mishaps rows count (step migration mishaps rows state.1 state.2)

/-- The batches that a migration of a store that no other task uses stages, in order. -/
def batches (migration : Migration) (mishaps : Mishaps) (store : Store) : List Batch :=
  batchesIn migration mishaps store.rows.size 7 (⟨store, false⟩, .fresh)

variable {store : Store} {log : List Batch}

/-- Each row of a store is staged once, in the order of the rows, with the floor of its level; and reports are made
of each number of rows at which one is due. -/
structure Accounted (migration : Migration) (store : Store) (log : List Batch) (rows : Nat)
    (reports : List (Nat × Bool)) : Prop where
  staged : ∃ previous old, migration.Due store previous old ∧
    log.flatten = store.rows.pairs.map (migration.rewritten old)
  told : reports = migration.reportsUpTo rows

/-- What a phase says of a log of the batches that were staged. -/
def Phase.Logged (migration : Migration) (store : Store) (log : List Batch) : Phase → Prop
  | .rewriting _ _ _ rewrite => rewrite.Logged migration log
  | .committing _ rewrite | .recording _ rewrite => Accounted migration store log rewrite.processed rewrite.reports
  | .finished (.ok result) reports => result.status = .migrated → Accounted migration store log result.rows reports
  | .finished (.error _) _ => True
  | _ => log = []

theorem Before.logged {phase : Phase} (before : Before phase) : phase.Logged migration store [] := by
  cases before with
  | kindRead | adopting | opening => rfl
  | idle status => exact fun migrated => absurd migrated status
  | refused => trivial

theorem logged_openScope {shared : Shared} {previous : Descriptor} :
    (openScope migration mishaps shared previous old).2.Logged migration store [] := by
  rw [openScope]
  split
  · rfl
  · split
    · trivial
    · rename_i scope rows success
      obtain ⟨_, _, success⟩ := bind_eq_ok.1 success
      obtain ⟨opened, found, success⟩ := bind_eq_ok.1 success
      obtain ⟨seen, streamed, success⟩ := bind_eq_ok.1 success
      cases success
      exact Rewrite.logged_start (Store.openScope_ok found streamed).2.1

theorem logged_record {shared : Shared} {result : Result} {reports : List (Nat × Bool)}
    (accounted : result.status = .migrated → Accounted migration store log result.rows reports) :
    (record migration mishaps shared result reports).2.Logged migration store log := by
  rcases record_cases with recorded | ⟨cause, failed⟩
  · rw [recorded]
    exact accounted
  · rw [failed]
    trivial

/-- A step adds to the log what it stages. -/
theorem logged_step {count : Nat} {state : Shared × Phase} (reached : Reached migration mishaps store state)
    (logged : state.2.Logged migration store log) :
    (step migration mishaps count state.1 state.2).2.Logged migration store
      (log ++ state.2.batches migration mishaps count) := by
  cases reached with
  | fresh =>
    subst logged
    exact before_fresh.logged
  | kindRead =>
    subst logged
    exact before_kindRead.logged
  | adopting =>
    subst logged
    refine logged_record fun migrated => ?_
    cases migrated
  | opening =>
    subst logged
    exact logged_openScope
  | @rewriting previous old done rest rewrite due progress all =>
    cases rest with
    | nil =>
      rw [List.append_nil] at all
      subst all
      rw [step]
      split
      · trivial
      · rename_i closed success
        have complete := progress.complete success
        refine ⟨⟨previous, old, due, ?_⟩, ?_⟩
        · rw [← progress.rows]
          exact Rewrite.Logged.flatten_leftover logged
        · rw [Rewrite.close_reports success, complete.processed, logged.told, progress.processed]
          rfl
    | cons row rest =>
      simp only [step]
      split
      · trivial
      · rename_i extended success
        exact Rewrite.Logged.addAll logged success
  | committing =>
    rw [step]
    split
    · trivial
    · exact (List.append_nil log).symm ▸ logged
  | recording => exact logged_record fun _ => (List.append_nil log).symm ▸ logged
  | finished => exact (List.append_nil log).symm ▸ logged

theorem logged_steps {rows count : Nat} {state : Shared × Phase} (reached : Reached migration mishaps store state)
    (logged : state.2.Logged migration store log) :
    (steps migration mishaps rows count state).2.Logged migration store
      (log ++ batchesIn migration mishaps rows count state) := by
  induction count generalizing state log with
  | zero =>
    rw [batchesIn, List.append_nil]
    exact logged
  | succ count ih =>
    rw [batchesIn, ← List.append_assoc]
    exact ih (reached_step reached) (logged_step reached logged)

theorem Phase.Logged.accounted {phase : Phase} {result : Result} (logged : phase.Logged migration store log)
    (returned : phase.result? = some (.ok result)) (migrated : result.status = .migrated) :
    Accounted migration store log result.rows phase.reports := by
  cases phase with
  | finished outcome reports =>
    cases returned
    exact logged migrated
  | _ => cases returned

/-- A migration that says that it migrated has staged each row once and made the reports that were due. -/
theorem accounted_of_migrated {result : Result} (returned : (migration.run mishaps store).result = .ok result)
    (migrated : result.status = .migrated) :
    Accounted migration store (migration.batches mishaps store) result.rows (migration.run mishaps store).reports := by
  have start : Reached migration mishaps store (⟨store, false⟩, .fresh) := .fresh
  have logged : (finalState migration mishaps store).2.Logged migration store
      ([] ++ migration.batches mishaps store) := by
    rw [finalState, batches]
    exact logged_steps start rfl
  exact logged.accounted (returned ▸ result?_finalState) migrated

end Progression.Migration
