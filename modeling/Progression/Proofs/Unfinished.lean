import Progression.Proofs.Rerun

namespace Progression

/-- Whether a fault of a kind says that a migration was not done: the old formula cannot be found, or rewriting was
given up. -/
def FaultKind.IsRefusal (kind : FaultKind) : Prop :=
  kind = .descriptor ∨ kind = .configuration ∨ kind = .migration

namespace Migration

variable {migration : Migration} {mishaps : Mishaps} {store after : Store}

/-- A migration that fails leaves the store as it was, unless it is the last write that fails. -/
theorem Ended.failed {fault : Fault} (ended : Ended migration mishaps store (.error fault) after) :
    after = store ∨ ∃ cause, mishaps .record = some cause ∧ fault = .store cause := by
  cases ended with
  | unread | unadopted | refused => exact .inl rfl
  | unrecorded due preserved mishap => exact .inr ⟨_, mishap, rfl⟩

theorem Ended.refused_unchanged {fault : Fault} (ended : Ended migration mishaps store (.error fault) after)
    (honest : ∀ cause, mishaps .record = some cause → ¬ cause.kind.IsRefusal) (refusal : fault.kind.IsRefusal) :
    after = store := by
  rcases ended.failed with same | ⟨cause, mishap, rfl⟩
  · exact same
  · exact absurd refusal (honest cause mishap)

theorem Ended.changed {result : Result} (ended : Ended migration mishaps store (.ok result) after) :
    (after.rows ≠ store.rows → result.status = .migrated) ∧
      (after.metadata ≠ store.metadata → result.status = .migrated ∨ result.status = .adopted) ∧
      ∀ key, key ≠ kindKey → key ≠ paramsKey → after.metadata.get? key = store.metadata.get? key := by
  have others (before : Store) {key : String} (otherKind : key ≠ kindKey) (otherParams : key ≠ paramsKey) :
      (migration.recorded before).metadata.get? key = before.metadata.get? key := by
    rw [get?_recorded, if_neg otherParams.symm, if_neg otherKind.symm]
  cases ended with
  | disabled | unchanged => exact ⟨fun other => absurd rfl other, fun other => absurd rfl other, fun _ _ _ => rfl⟩
  | adopted => exact ⟨fun other => absurd rfl other, fun _ => .inr rfl, fun _ => others store⟩
  | @migrated previous old => exact ⟨fun _ => rfl, fun _ => .inl rfl, fun _ => others (migration.relevelled old store)⟩

/-- A migration does all or nothing, as far as its outcome tells. Whatever descriptor is in the store, and whatever
befalls the store or interrupts the rewriting, a migration that says that it was not done leaves every row and every
entry. The write that comes after the rewriting may fail too, only not with a fault that says as much. A migration
that returns has changed rows only if it says that it migrated, and entries only if it says that it migrated or
adopted its descriptor, which then is all that differs. -/
theorem unfinished_changes_nothing (migration : Migration) (mishaps : Mishaps) (store : Store)
    (honest : ∀ cause, mishaps .record = some cause → ¬ cause.kind.IsRefusal) :
    let ending := migration.run mishaps store
    (∀ fault, ending.result = .error fault → fault.kind.IsRefusal → ending.store = store) ∧
    ∀ result, ending.result = .ok result →
      (ending.store.rows ≠ store.rows → result.status = .migrated) ∧
      (ending.store.metadata ≠ store.metadata → result.status = .migrated ∨ result.status = .adopted) ∧
      ∀ key, key ≠ kindKey → key ≠ paramsKey → ending.store.metadata.get? key = store.metadata.get? key := by
  intro ending
  have ended : Ended migration mishaps store ending.result ending.store := run_ended migration mishaps store
  constructor
  · intro fault failed refusal
    exact (failed ▸ ended).refused_unchanged honest refusal
  · intro result returned
    exact (returned ▸ ended).changed

/-- A migration that has 20 seconds. -/
def slowToTenEach : Migration := { toTenEach with pace := { toTenEach.pace with timeout := .int 20 } }

/-- The time runs out when two rows are staged and not applied. -/
theorem unfinished_changes_nothing_in_time :
    let late := Mishaps.once .apply (.foreign .timeout "")
    (slowToTenEach.run late hundredStore).result = .error (.expired (.int 20)) ∧
      (slowToTenEach.run late hundredStore).store = hundredStore := by
  intro late
  have honest : ∀ cause, late .record = some cause → ¬ cause.kind.IsRefusal := fun _ mishap => nomatch mishap
  have expired : (slowToTenEach.run late hundredStore).result = .error (.expired (.int 20)) := by rfl
  obtain ⟨refused, -⟩ := unfinished_changes_nothing slowToTenEach late hundredStore honest
  exact ⟨expired, refused _ expired (.inr (.inr rfl))⟩

end Migration

end Progression
