import Progression.Proofs.Entries
import Progression.Proofs.Outcome
import Progression.Store.Scope

namespace Progression

namespace Store

variable {store : Store}

/-- Whether a store is open and has its tables. -/
def Ready (store : Store) : Prop := store.closed = false ∧ store.intact = true

theorem reach_eq_ok {fault : StoreFault} {done : Unit} :
    store.reach fault = .ok done ↔ store.Ready := by
  rw [reach, Ready]
  cases store.closed <;> cases store.intact <;> simp

theorem load_of_ready (ready : store.Ready) (identity : Identity) :
    store.load identity = .ok (store.rows.get? identity) := by
  rw [load, bind_eq_ok]
  exact ⟨(), reach_eq_ok.2 ready, rfl⟩

theorem save_of_ready (ready : store.Ready) {identity : Identity} {xp : Int} (holds : store.kind.holds xp = true) :
    store.save identity xp = .ok { store with rows := store.rows.put identity xp } := by
  rw [save, bind_eq_ok]
  refine ⟨(), reach_eq_ok.2 ready, ?_⟩
  rw [if_pos holds]
  rfl

theorem contains_of_ready (ready : store.Ready) (identity : Identity) :
    store.contains identity = .ok (store.rows.contains identity) := by
  rw [contains, bind_eq_ok]
  exact ⟨(), reach_eq_ok.2 ready, rfl⟩

theorem stream_of_ready (ready : store.Ready) : store.stream = .ok store.rows.pairs := by
  rw [stream, bind_eq_ok]
  exact ⟨(), reach_eq_ok.2 ready, rfl⟩

theorem readEntry_eq_ok {key : String} {found : Option String} :
    store.readEntry key = .ok found ↔ store.Ready ∧ store.metadata.get? key = found := by
  rw [readEntry, bind_eq_ok]
  constructor
  · rintro ⟨_, reached, success⟩
    exact ⟨reach_eq_ok.1 reached, Except.ok.inj success⟩
  · rintro ⟨ready, rfl⟩
    exact ⟨(), reach_eq_ok.2 ready, rfl⟩

theorem writeEntries_of_reached {entries : Entries String String} (ready : store.Ready) :
    store.writeEntries entries = .ok { store with metadata := store.metadata.putAll entries.pairs } := by
  rw [writeEntries]
  split
  · rename_i nothing
    rw [Bool.and_eq_true, List.isEmpty_iff] at nothing
    rw [nothing.1]
    rfl
  · rw [show store.reach _ = .ok () from reach_eq_ok.2 ready]
    rfl

theorem writeEntries_ok {entries : Entries String String} {after : Store}
    (success : store.writeEntries entries = .ok after) :
    after = { store with metadata := store.metadata.putAll entries.pairs } := by
  rw [writeEntries] at success
  split at success
  · rename_i nothing
    rw [Bool.and_eq_true, List.isEmpty_iff] at nothing
    rw [nothing.1]
    exact (Except.ok.inj success).symm
  · obtain ⟨_, _, success⟩ := bind_eq_ok.1 success
    exact (Except.ok.inj success).symm

theorem Ready.reopen (ready : store.Ready) : store.reopen.Ready := by
  rw [Store.reopen]
  split
  · exact ready
  · exact ⟨rfl, rfl⟩

theorem ready_reopen_of_durable (durable : store.kind = .durable) : store.reopen.Ready := by
  rw [Store.reopen, durable]
  exact ⟨rfl, rfl⟩

@[simp] theorem reopen_rows : store.reopen.rows = store.rows := by
  rw [reopen]
  split <;> rfl

@[simp] theorem reopen_metadata : store.reopen.metadata = store.metadata := by
  rw [reopen]
  split <;> rfl

@[simp] theorem reopen_kind : store.reopen.kind = store.kind := by
  rw [reopen]
  split <;> rfl

end Store

theorem Scope.stage_ok {scope next : Scope} {rows : List (Identity × Int)}
    (success : scope.stage rows = .ok next) :
    ∃ staged : Entries Identity Int, staged.pairs = scope.staged.pairs ++ rows ∧ next = { scope with staged } := by
  induction rows generalizing scope with
  | nil =>
    cases success
    exact ⟨next.staged, (List.append_nil _).symm, rfl⟩
  | cons row rest ih =>
    obtain ⟨identity, xp⟩ := row
    by_cases repeated : scope.staged.contains identity = true
    · simp [stage, repeated] at success
    · by_cases held : scope.kind.holds xp = true
      · simp only [stage, repeated, held, if_true, if_false, Bool.false_eq_true] at success
        obtain ⟨staged, same, rfl⟩ := ih success
        refine ⟨staged, ?_, rfl⟩
        rw [same, Entries.pairs_put_of_absent (by simpa using repeated), List.append_assoc]
        rfl
      · simp [stage, repeated, held] at success

theorem Scope.kind_of_stage_error {scope : Scope} {rows : List (Identity × Int)} {fault : StoreFault}
    (failure : scope.stage rows = .error fault) : fault.kind ≠ .timeout := by
  induction rows generalizing scope with
  | nil => cases failure
  | cons row rest ih =>
    obtain ⟨identity, xp⟩ := row
    rw [stage] at failure
    split at failure
    · cases failure
      rw [repetition]
      split <;> simp [StoreFault.kind]
    · split at failure
      · exact ih failure
      · cases failure
        simp [StoreFault.kind]

theorem Scope.apply_ok {scope next : Scope} {count : Nat} (success : scope.apply = .ok (next, count)) :
    next = { scope with applied := scope.staged.filter fun identity _ => scope.snapshot.contains identity } := by
  rw [apply] at success
  split at success
  · cases success
    rfl
  · cases success

end Progression
