import Progression.Migration.Step

namespace Progression.Migration

/-- A number of steps, with no other task in between. -/
def steps (migration : Migration) (mishaps : Mishaps) (rows : Nat) : Nat → Shared × Phase → Shared × Phase
  | 0, state => state
  | count + 1, state =>
    steps migration mishaps rows count (step migration mishaps rows state.1 state.2)

/-- A state is at most a number of steps away from the end, if each step rewrites up to `rows` rows. -/
inductive Near (rows : Nat) : Nat → Shared × Phase → Prop where
  | finished {count shared result reports} : Near rows count (shared, .finished result reports)
  | recording {count shared previous rewrite} : Near rows (count + 1) (shared, .recording previous rewrite)
  | adopting {count shared} : Near rows (count + 1) (shared, .adopting)
  | committing {count shared previous rewrite} : Near rows (count + 2) (shared, .committing previous rewrite)
  | closing {count shared previous old rewrite} :
    Near rows (count + 3) (shared, .rewriting previous old [] rewrite)
  | rewriting {count shared previous old rest rewrite} (fits : rest.length ≤ rows) :
    Near rows (count + 4) (shared, .rewriting previous old rest rewrite)
  | opening {count shared previous old} (free : shared.scopeOpen = false)
    (fits : shared.store.rows.size ≤ rows) : Near rows (count + 5) (shared, .opening previous old)
  | kindRead {count shared kind} (free : shared.scopeOpen = false)
    (fits : shared.store.rows.size ≤ rows) : Near rows (count + 6) (shared, .kindRead kind)
  | fresh {count shared} (free : shared.scopeOpen = false)
    (fits : shared.store.rows.size ≤ rows) : Near rows (count + 7) (shared, .fresh)

variable {migration : Migration} {mishaps : Mishaps} {rows count : Nat} {shared : Shared}

theorem near_record {result : Result} {reports : List (Nat × Bool)} :
    Near rows count (record migration mishaps shared result reports) := by
  simp only [record]
  split <;> exact .finished

theorem near_settle {previous : Option Descriptor} (free : shared.scopeOpen = false)
    (fits : shared.store.rows.size ≤ rows) :
    Near rows (count + 5) (shared, settle migration previous) := by
  unfold settle
  split
  · exact .adopting
  · split
    · exact .finished
    · split
      · exact .finished
      · split
        · exact .finished
        · exact .opening free fits

theorem near_openScope {previous : Descriptor} {old : Formula} (free : shared.scopeOpen = false)
    (fits : shared.store.rows.size ≤ rows) :
    Near rows (count + 4) (openScope migration mishaps shared previous old) := by
  unfold openScope
  rw [if_neg (by simp [free])]
  split
  · exact .finished
  · rename_i scope seen opened
    cases guarded : mishaps.guard .openScope <;> rw [guarded] at opened
    · cases opened
    · cases found : shared.store.openScope <;> rw [found] at opened
      · cases opened
      · rename_i whole
        cases streamed : whole.stream <;> simp [streamed, bind, Except.bind, pure, Except.pure] at opened
        obtain ⟨rfl, rfl⟩ := opened
        obtain ⟨_, _, rfl⟩ := Store.openScope_ok found streamed
        exact .rewriting fits

theorem near_step {state : Shared × Phase} (near : Near rows (count + 1) state) :
    Near rows count (step migration mishaps rows state.1 state.2) := by
  cases near with
  | finished => exact .finished
  | recording => exact near_record
  | adopting => exact near_record
  | committing => simp only [step]; split <;> constructor
  | closing => simp only [step]; split <;> constructor
  | @rewriting _ _ previous old rest rewrite fits =>
    cases rest with
    | nil => simp only [step]; split <;> constructor
    | cons row rest =>
      simp only [step]
      split
      · exact .finished
      · rw [List.drop_eq_nil_of_le fits]; exact .closing
  | opening free fits => exact near_openScope free fits
  | kindRead free fits =>
    simp only [step, readParams]
    split
    · exact .finished
    · exact near_settle free fits
  | fresh free fits =>
    simp only [step, readKind]
    split
    · split
      · exact .finished
      · exact .kindRead free fits
    · exact .finished

theorem near_steps {state : Shared × Phase} {done : Nat} (near : Near rows (count + done) state) :
    Near rows count (steps migration mishaps rows done state) := by
  induction done generalizing state with
  | zero => exact near
  | succ done ih => exact ih (near_step near)

theorem result?_isSome_of_near {state : Shared × Phase} (near : Near rows 0 state) :
    state.2.result?.isSome := by
  cases near; rfl

/-- The state after a migration that has the store for itself. -/
def finalState (migration : Migration) (mishaps : Mishaps) (store : Store) : Shared × Phase :=
  steps migration mishaps store.rows.size 7 (⟨store, false⟩, .fresh)

theorem result?_finalState_isSome {store : Store} :
    (finalState migration mishaps store).2.result?.isSome :=
  result?_isSome_of_near (near_steps (.fresh rfl (Nat.le_refl _)))

/-- How a migration ended. -/
structure Ending where
  result : Except Fault Result
  store : Store
  reports : List (Nat × Bool)

/-- Migrate a store that no other task uses. -/
def run (migration : Migration) (mishaps : Mishaps) (store : Store) : Ending :=
  let final := finalState migration mishaps store
  ⟨final.2.result?.get result?_finalState_isSome, final.1.store, final.2.reports⟩

end Progression.Migration
