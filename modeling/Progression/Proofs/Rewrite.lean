import Progression.Migration.Rewrite
import Progression.Proofs.Store

/-!
What rewriting rows comes to. However the rows are cut into batches and whichever floors are known already,
the rows that are staged, with those that wait, are the rows done, each with the floor of its level.
-/

namespace Progression

namespace Migration

variable {migration : Migration} {old : Formula} {mishaps : Mishaps}

/-- An outcome that is no fault of the store outside of rewriting. -/
def Contained {α : Type} (outcome : Except Fault α) : Prop := ∀ cause, outcome ≠ .error (.store cause)

section Contained

variable {α β : Type}

theorem contained_ok {value : α} : Contained (.ok value) := by
  intro cause same
  cases same

theorem Contained.bind {outcome : Except Fault α} {next : α → Except Fault β} (first : Contained outcome)
    (rest : ∀ value, Contained (next value)) : Contained (outcome >>= next) := by
  cases outcome with
  | error fault =>
    intro cause same
    cases same
    exact first cause rfl
  | ok value => exact rest value

theorem contained_ofStore {fault : StoreFault} : Contained (.error (.ofStore migration fault) : Except Fault α) := by
  intro cause same
  rw [Fault.ofStore] at same
  split at same <;> cases same

theorem contained_mapError {outcome : Except StoreFault α} :
    Contained (outcome.mapError (.ofStore migration)) := by
  cases outcome with
  | error fault => exact contained_ofStore
  | ok value => exact contained_ok

end Contained

/-- The new formula has a floor for a level that leads back to the level. -/
def Preserves (migration : Migration) (level : Nat) : Prop :=
  migration.formula.levelForXp (migration.formula.xpForLevel level) = level

theorem target_ok {level : Nat} {floor : Int} (success : migration.target level = .ok floor) :
    floor = migration.formula.xpForLevel level ∧ migration.Preserves level := by
  rw [target] at success
  split at success
  · rename_i preserved
    cases success
    exact ⟨rfl, preserved⟩
  · cases success

theorem target_contained {level : Nat} : Contained (migration.target level) := by
  rw [target]
  split
  · exact contained_ok
  · intro cause same
    cases same

/-- A row with the floor, under the new formula, of the level that it has under the old one. -/
def rewritten (migration : Migration) (old : Formula) (row : Identity × Int) : Identity × Int :=
  (row.1, migration.formula.xpForLevel (old.levelForXp row.2))

namespace Rewrite

variable {rewrite next : Rewrite}

theorem flush_ok (success : rewrite.flush migration mishaps = .ok next) :
    ∃ staged : Entries Identity Int, staged.pairs = rewrite.scope.staged.pairs ++ rewrite.batch ∧
      next = { rewrite with
        scope := { rewrite.scope with staged }, batch := [], staged := rewrite.staged + 1 } := by
  obtain ⟨_, _, success⟩ := bind_eq_ok.1 success
  obtain ⟨scope, stagedScope, success⟩ := bind_eq_ok.1 success
  obtain ⟨staged, same, rfl⟩ := Scope.stage_ok (mapError_eq_ok.1 stagedScope)
  cases success
  exact ⟨staged, same, rfl⟩

/-- One more row waits, with the floor of its level. -/
def await (rewrite : Rewrite) (identity : Identity) (level : Nat) (floor : Int) : Rewrite :=
  { rewrite with targets := rewrite.targets.put level floor, batch := rewrite.batch ++ [(identity, floor)] }

/-- Stage the batch if it is full. -/
def gather (migration : Migration) (mishaps : Mishaps) (rewrite : Rewrite) : Except Fault Rewrite :=
  if migration.pace.batchSize ≤ rewrite.batch.length then rewrite.flush migration mishaps else .ok rewrite

/-- Count one more row as done. -/
def tally (migration : Migration) (rewrite : Rewrite) : Rewrite :=
  { rewrite with
    processed := rewrite.processed + 1, reports := migration.report rewrite.reports (rewrite.processed + 1) }

/-- Stage the rows that wait, if there are any. -/
def clear (migration : Migration) (mishaps : Mishaps) (rewrite : Rewrite) : Except Fault Rewrite :=
  if rewrite.batch.isEmpty then .ok rewrite else rewrite.flush migration mishaps

theorem add_eq {row : Identity × Int} : rewrite.add migration old mishaps row = (do
    (mishaps.guard (.stream rewrite.processed)).mapError (.ofStore migration)
    let floor ← rewrite.targetOf migration (old.levelForXp row.2)
    let gathered ← (rewrite.await row.1 (old.levelForXp row.2) floor).gather migration mishaps
    return gathered.tally migration) := by
  refine bind_congr fun _ => bind_congr fun floor => ?_
  rw [gather]
  by_cases full : migration.pace.batchSize ≤ (rewrite.await row.1 (old.levelForXp row.2) floor).batch.length
  · rw [if_pos full]
    exact if_pos full
  · rw [if_neg full]
    exact if_neg full

theorem close_eq : rewrite.close migration mishaps = (do
    let cleared ← rewrite.clear migration mishaps
    (mishaps.guard .apply).mapError (.ofStore migration)
    let (scope, _) ← cleared.scope.apply.mapError (.ofStore migration)
    return { cleared with scope }) := by
  rw [close, clear]
  split <;> rfl

/-- Stages of work that are as far, however many of the rows are staged. -/
structure Even (one two : Rewrite) : Prop where
  scope : ∃ staged, two.scope = { one.scope with staged }
  rows : two.scope.staged.pairs ++ two.batch = one.scope.staged.pairs ++ one.batch
  targets : two.targets = one.targets
  processed : two.processed = one.processed

theorem Even.refl (rewrite : Rewrite) : Even rewrite rewrite := ⟨⟨rewrite.scope.staged, rfl⟩, rfl, rfl, rfl⟩

theorem flush_even (success : rewrite.flush migration mishaps = .ok next) : Even rewrite next ∧ next.batch = [] := by
  obtain ⟨staged, same, rfl⟩ := flush_ok success
  exact ⟨⟨⟨staged, rfl⟩, (List.append_nil _).trans same, rfl, rfl⟩, rfl⟩

theorem gather_even (success : rewrite.gather migration mishaps = .ok next) : Even rewrite next := by
  rw [gather] at success
  split at success
  · exact (flush_even success).1
  · cases success
    exact .refl rewrite

theorem clear_even (success : rewrite.clear migration mishaps = .ok next) : Even rewrite next ∧ next.batch = [] := by
  rw [clear] at success
  split at success
  · rename_i empty
    cases success
    exact ⟨.refl rewrite, List.isEmpty_iff.1 empty⟩
  · exact flush_even success

/-- What one more row comes to: its floor is known or looked up, and the row is staged or waits. -/
theorem add_ok {row : Identity × Int} (success : rewrite.add migration old mishaps row = .ok next) :
    ∃ floor, rewrite.targetOf migration (old.levelForXp row.2) = .ok floor ∧
      (∃ staged, next.scope = { rewrite.scope with staged }) ∧
      next.scope.staged.pairs ++ next.batch
        = rewrite.scope.staged.pairs ++ (rewrite.batch ++ [(row.1, floor)]) ∧
      next.targets = rewrite.targets.put (old.levelForXp row.2) floor ∧
      next.processed = rewrite.processed + 1 := by
  rw [add_eq] at success
  obtain ⟨_, _, success⟩ := bind_eq_ok.1 success
  obtain ⟨floor, known, success⟩ := bind_eq_ok.1 success
  obtain ⟨gathered, staged, success⟩ := bind_eq_ok.1 success
  have even := gather_even staged
  cases success
  exact ⟨floor, known, even.scope, even.rows, even.targets, congrArg (· + 1) even.processed⟩

/-- What closing comes to: all rows are staged, and those of known identities are applied. -/
theorem close_ok (success : rewrite.close migration mishaps = .ok next) :
    ∃ staged : Entries Identity Int, staged.pairs = rewrite.scope.staged.pairs ++ rewrite.batch ∧
      next.scope.applied = staged.filter (fun identity _ => rewrite.scope.snapshot.contains identity) ∧
      next.targets = rewrite.targets ∧ next.processed = rewrite.processed := by
  rw [close_eq] at success
  obtain ⟨cleared, staged, success⟩ := bind_eq_ok.1 success
  obtain ⟨_, _, success⟩ := bind_eq_ok.1 success
  obtain ⟨⟨scope, count⟩, applied, success⟩ := bind_eq_ok.1 success
  obtain ⟨even, empty⟩ := clear_even staged
  obtain ⟨changed, same⟩ := even.scope
  have rows := even.rows
  rw [empty, List.append_nil] at rows
  cases Scope.apply_ok (mapError_eq_ok.1 applied)
  cases success
  refine ⟨cleared.scope.staged, rows, ?_, even.targets, even.processed⟩
  simp only [same]

section Contained

theorem targetOf_contained {level : Nat} : Contained (rewrite.targetOf migration level) := by
  rw [targetOf]
  split
  · exact contained_ok
  · exact target_contained

theorem flush_contained : Contained (rewrite.flush migration mishaps) :=
  contained_mapError.bind fun _ => contained_mapError.bind fun _ => contained_ok

theorem gather_contained : Contained (rewrite.gather migration mishaps) := by
  rw [gather]
  split
  · exact flush_contained
  · exact contained_ok

theorem clear_contained : Contained (rewrite.clear migration mishaps) := by
  rw [clear]
  split
  · exact contained_ok
  · exact flush_contained

theorem add_contained {row : Identity × Int} : Contained (rewrite.add migration old mishaps row) := by
  rw [add_eq]
  exact contained_mapError.bind fun _ => targetOf_contained.bind fun _ =>
    gather_contained.bind fun _ => contained_ok

theorem addAll_contained {rows : List (Identity × Int)} {fault : Fault}
    (failure : rewrite.addAll migration old mishaps rows = (next, some fault)) (cause : StoreFault) :
    fault ≠ .store cause := by
  induction rows generalizing rewrite with
  | nil => cases failure
  | cons row rest ih =>
    rw [addAll] at failure
    cases added : rewrite.add migration old mishaps row with
    | error fault =>
      rw [added] at failure
      cases failure
      intro same
      exact add_contained cause (same ▸ added)
    | ok extended =>
      rw [added] at failure
      exact ih failure

theorem close_contained : Contained (rewrite.close migration mishaps) := by
  rw [close_eq]
  exact clear_contained.bind fun _ => contained_mapError.bind fun _ =>
    contained_mapError.bind fun _ => contained_ok

end Contained

/-- How far rewriting has come: the rows done are staged or wait, each with the floor of its level, and the
floors that are known are those of the levels met. -/
structure Progress (migration : Migration) (old : Formula) (snapshot : Entries Identity Int)
    (done : List (Identity × Int)) (rewrite : Rewrite) : Prop where
  snapshot : rewrite.scope.snapshot = snapshot
  rows : rewrite.scope.staged.pairs ++ rewrite.batch = done.map (migration.rewritten old)
  met : ∀ level, level ∈ rewrite.targets.keys ↔ level ∈ done.map fun row => old.levelForXp row.2
  known : ∀ level floor, rewrite.targets.get? level = some floor →
    floor = migration.formula.xpForLevel level ∧ migration.Preserves level
  processed : rewrite.processed = done.length

variable {snapshot : Entries Identity Int} {done : List (Identity × Int)}

theorem progress_start {scope : Scope} (fresh : scope.staged = ∅) :
    Progress migration old scope.snapshot [] { scope } := by
  refine ⟨rfl, ?_, ?_, ?_, rfl⟩
  · rw [fresh]
    rfl
  · intro level
    exact Iff.rfl
  · intro level floor found
    cases found

theorem Progress.targetOf_ok (progress : Progress migration old snapshot done rewrite) {level : Nat} {floor : Int}
    (success : rewrite.targetOf migration level = .ok floor) :
    floor = migration.formula.xpForLevel level ∧ migration.Preserves level := by
  rw [targetOf] at success
  cases found : rewrite.targets.get? level with
  | none =>
    rw [found] at success
    exact target_ok success
  | some known =>
    rw [found] at success
    cases success
    exact progress.known level _ found

theorem Progress.add {row : Identity × Int} (progress : Progress migration old snapshot done rewrite)
    (success : rewrite.add migration old mishaps row = .ok next) :
    Progress migration old snapshot (done ++ [row]) next := by
  obtain ⟨floor, found, ⟨staged, kept⟩, rows, targets, processed⟩ := add_ok success
  obtain ⟨rfl, preserved⟩ := progress.targetOf_ok found
  refine ⟨(congrArg Scope.snapshot kept).trans progress.snapshot, ?_, ?_, ?_, ?_⟩
  · rw [rows, ← List.append_assoc, progress.rows, List.map_append]
    rfl
  · intro level
    rw [targets, Entries.mem_keys_put, progress.met, List.map_append, List.mem_append, List.map_singleton,
      List.mem_singleton, or_comm]
  · intro level floor found
    rw [targets, Entries.get?_put] at found
    split at found
    · rename_i same
      cases found
      exact same ▸ ⟨rfl, preserved⟩
    · exact progress.known level floor found
  · rw [processed, progress.processed, List.length_append, List.length_singleton]

theorem Progress.addAll {rows : List (Identity × Int)} (progress : Progress migration old snapshot done rewrite)
    (success : rewrite.addAll migration old mishaps rows = (next, none)) :
    Progress migration old snapshot (done ++ rows) next := by
  induction rows generalizing done rewrite with
  | nil =>
    cases success
    rw [List.append_nil]
    exact progress
  | cons row rest ih =>
    rw [Rewrite.addAll] at success
    cases added : rewrite.add migration old mishaps row with
    | error fault =>
      rw [added] at success
      cases success
    | ok extended =>
      rw [added] at success
      have longer := ih (progress.add added) success
      rwa [List.append_assoc, List.singleton_append] at longer

theorem Progress.preserves (progress : Progress migration old snapshot done rewrite) {row : Identity × Int}
    (member : row ∈ done) : migration.Preserves (old.levelForXp row.2) := by
  have present := (progress.met _).2 (List.mem_map.2 ⟨row, member, rfl⟩)
  obtain ⟨pair, stored, same⟩ := List.mem_map.1 present
  have found : rewrite.targets.get? pair.1 = some pair.2 := Entries.get?_eq_some_iff.2 stored
  exact same ▸ (progress.known _ _ found).2

theorem Progress.levels (progress : Progress migration old snapshot done rewrite) :
    rewrite.targets.size = (done.map fun row => old.levelForXp row.2).dedup.length :=
  Entries.size_eq_length_dedup progress.met

/-- What is left to do when all rows are done: they are staged and applied as a whole. -/
theorem Progress.close (progress : Progress migration old snapshot done rewrite)
    (known : ∀ row ∈ done, row.1 ∈ snapshot.keys)
    (success : rewrite.close migration mishaps = .ok next) :
    next.scope.applied.pairs = done.map (migration.rewritten old) ∧
      next.targets = rewrite.targets ∧ next.processed = rewrite.processed := by
  obtain ⟨staged, same, applied, targets, processed⟩ := close_ok success
  refine ⟨?_, targets, processed⟩
  rw [applied, ← progress.rows, ← same]
  refine List.filter_eq_self.2 fun row member => ?_
  rw [same, progress.rows] at member
  obtain ⟨source, present, rfl⟩ := List.mem_map.1 member
  rw [progress.snapshot]
  exact Entries.contains_eq_true_iff.2 (known source present)

end Rewrite

end Migration

end Progression
