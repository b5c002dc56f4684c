import Progression.Proofs.Verdict

namespace Progression

namespace Migration

variable {migration : Migration} {store : Store} {old : Formula} {done rest : List (Identity × Int)}

/-- Whether the store fails no use while a lone migration that nothing befalls rewrites its rows. -/
def Spared (migration : Migration) (store : Store) : Prop :=
  ∀ fault, (migration.run .none store).result ≠ .error (.rewriting fault)

/-- The store holds the new floor of each row whose level under an old formula can be preserved. -/
def HoldsFloors (migration : Migration) (old : Formula) (store : Store) : Prop :=
  ∀ row ∈ store.rows.pairs, migration.Preserves (old.levelForXp row.2) →
    store.kind.holds (migration.rewritten old row).2 = true

/-- The store holds the new floors if its rows are to be rewritten. -/
def Holds (migration : Migration) (store : Store) : Prop :=
  ∀ previous old, migration.Due store previous old → migration.HoldsFloors old store

theorem holds_of_memory (memory : store.kind = .memory) : migration.Holds store := by
  intro previous old due row member preserved
  rw [memory]
  rfl

namespace Rewrite

variable {rewrite next : Rewrite} {row : Identity × Int}

/-- Only a level that is not preserved keeps a row from being rewritten. -/
theorem Within.add_spared (inside : Within migration old store done rewrite)
    (all : store.rows.pairs = done ++ row :: rest) (held : migration.HoldsFloors old store)
    {fault : Fault} (failure : rewrite.add migration old .none row = .error fault) (cause : StoreFault) :
    fault ≠ .rewriting cause := by
  by_cases preserved : migration.Preserves (old.levelForXp row.2)
  · have kept : ∀ earlier ∈ done ++ [row], store.kind.holds (migration.rewritten old earlier).2 = true := by
      intro earlier member
      refine held earlier ?_ ?_
      · rw [all, List.append_cons]
        exact List.mem_append_left _ member
      · rcases List.mem_append.1 member with before | last
        · exact inside.progress.preserves before
        · rw [List.mem_singleton.1 last]
          exact preserved
    obtain ⟨next, success⟩ := inside.exists_add all preserved kept
    cases failure.symm.trans success
  · cases failure.symm.trans (inside.add_lost preserved)
    intro same
    cases same

theorem Within.addAll_spared (inside : Within migration old store done rewrite) {rows : List (Identity × Int)}
    (all : store.rows.pairs = done ++ (rows ++ rest)) (held : migration.HoldsFloors old store)
    {fault : Fault} (failure : rewrite.addAll migration old .none rows = (next, some fault)) (cause : StoreFault) :
    fault ≠ .rewriting cause := by
  induction rows generalizing rewrite done with
  | nil => cases failure
  | cons row later ih =>
    rw [Rewrite.addAll] at failure
    cases added : rewrite.add migration old .none row with
    | error refusal =>
      rw [added] at failure
      cases failure
      exact inside.add_spared all held added cause
    | ok extended =>
      rw [added] at failure
      refine ih (inside.add added) ?_ failure
      rw [all, List.cons_append, List.append_cons]

end Rewrite

/-- What a phase that the store has not failed says of the work done. -/
def Phase.Spared (migration : Migration) (store : Store) : Phase → Prop
  | .rewriting _ old rest rewrite => ∃ done, store.rows.pairs = done ++ rest ∧
      Rewrite.Within migration old store done rewrite
  | .finished (.error fault) _ => ∀ cause, fault ≠ .rewriting cause
  | _ => True

theorem Before.spared {phase : Phase} (before : Before phase) : phase.Spared migration store := by
  cases before with
  | refused outside => exact outside
  | _ => trivial

theorem spared_record {shared : Shared} {result : Result} {reports : List (Nat × Bool)} :
    (record migration .none shared result reports).2.Spared migration store := by
  rcases record_cases with recorded | ⟨cause, failed⟩
  · rw [recorded]
    trivial
  · rw [failed]
    intro other same
    cases same

theorem spared_step (holds : migration.Holds store) {count : Nat} {state : Shared × Phase}
    (reached : Reached migration .none store state) (spared : state.2.Spared migration store) :
    (step migration .none count state.1 state.2).2.Spared migration store := by
  cases reached with
  | fresh => exact before_fresh.spared
  | kindRead => exact before_kindRead.spared
  | adopting => exact spared_record
  | opening due =>
    have ready : store.Ready := (Store.readDescriptor_eq_ok.1 due.stored).1
    rw [step_opening ready]
    exact ⟨[], rfl, within_start ready⟩
  | @rewriting previous old _ rest rewrite due progress all =>
    obtain ⟨done, whole, inside⟩ := spared
    cases rest with
    | nil =>
      rw [List.append_nil] at whole
      subst whole
      have preserved : ∀ row ∈ store.rows.pairs, migration.Preserves (old.levelForXp row.2) :=
        fun row member => inside.progress.preserves member
      have fit : migration.Fit old store :=
        ⟨preserved, fun row member => holds previous old due row member (preserved row member)⟩
      obtain ⟨closed, success⟩ := inside.exists_close fit
      rw [step, success]
      trivial
    | cons row rest =>
      rw [← List.take_append_drop count (row :: rest)] at whole
      simp only [step]
      split
      · rename_i reached fault failure
        exact inside.addAll_spared whole (holds previous old due) failure
      · rename_i extended success
        exact ⟨_, by rw [whole, List.append_assoc], inside.addAll success⟩
  | committing => trivial
  | recording => exact spared_record
  | finished => exact spared

theorem spared_steps (holds : migration.Holds store) {rows count : Nat} {state : Shared × Phase}
    (reached : Reached migration .none store state) (spared : state.2.Spared migration store) :
    (steps migration .none rows count state).2.Spared migration store := by
  induction count generalizing state with
  | zero => exact spared
  | succ count ih => exact ih (reached_step reached) (spared_step holds reached spared)

theorem Phase.Spared.result_ne {phase : Phase} {fault : Fault} (spared : phase.Spared migration store)
    (returned : phase.result? = some (.error fault)) (cause : StoreFault) : fault ≠ .rewriting cause := by
  cases phase with
  | finished result reports =>
    cases returned
    exact spared cause
  | _ => cases returned

/-- A store that holds the new floors fails no rewriting that nothing befalls. -/
theorem spared_of_holds (holds : migration.Holds store) : migration.Spared store := by
  intro fault failed
  have start : Reached migration .none store (⟨store, false⟩, .fresh) := .fresh
  have spared : (finalState migration .none store).2.Spared migration store := by
    rw [finalState]
    exact spared_steps holds start trivial
  exact spared.result_ne (failed ▸ result?_finalState) fault rfl

end Migration

end Progression
