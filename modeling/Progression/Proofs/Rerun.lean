import Progression.Proofs.Migration

/-!
Migrating again after a migration that failed. Rows and descriptor are two writes: if only the second of them
fails, the descriptor is still that of the old formula, and the rewritten rows are rewritten once more.
-/

namespace Progression.Migration

/-- Nothing befalls the store. -/
def Mishaps.none : Mishaps := fun _ => .none

/-- One use of the store fails. -/
def Mishaps.once (use : StoreUse) (fault : StoreFault) : Mishaps :=
  fun other => if other = use then some fault else .none

theorem Mishaps.once_eq_some {use other : StoreUse} {mishap fault : StoreFault} :
    once use mishap other = some fault ↔ other = use ∧ mishap = fault := by
  rw [once]
  split <;> simp [*]

variable {migration : Migration} {mishaps : Mishaps} {store after : Store}
  {previous : Descriptor} {old : Formula}

theorem keepsLevels_self_iff {new : Formula} :
    KeepsLevels old new store store ↔ ∀ row ∈ store.rows.pairs, new.levelForXp row.2 = old.levelForXp row.2 := by
  have same : ∀ identity, store.rows.get? identity = (store.rows.get? identity).map id :=
    fun _ => Option.map_id_apply.symm
  exact keepsLevels_iff same

/-- If levels are kept from some point on, they are kept from the beginning just if they are kept until then. -/
theorem keepsLevels_iff_of_later {middle new : Formula} {before between : Store}
    (identities : between.rows.keys = before.rows.keys) (later : KeepsLevels middle new between after) :
    KeepsLevels old new before after ↔ KeepsLevels old middle before between := by
  constructor
  · intro kept identity xp found
    have present : identity ∈ between.rows.keys := by
      rw [identities]
      exact List.mem_map.2 ⟨_, Entries.mem_of_get? found, rfl⟩
    obtain ⟨now, foundNow⟩ := Option.isSome_iff_exists.1 (Entries.contains_eq_true_iff.2 present)
    obtain ⟨last, foundLast, same⟩ := later identity now foundNow
    obtain ⟨_, foundAgain, kept⟩ := kept identity xp found
    cases foundLast.symm.trans foundAgain
    exact ⟨now, foundNow, same.symm.trans kept⟩
  · intro kept identity xp found
    obtain ⟨now, foundNow, same⟩ := kept identity xp found
    obtain ⟨last, foundLast, kept⟩ := later identity now foundNow
    exact ⟨last, foundLast, kept.trans same⟩

/-- A migration in which one use of the store fails leaves the store as it was, or with rewritten rows if the
use is the last one. -/
theorem Ended.failed_once {use : StoreUse} {mishap : StoreFault} {failure : Fault}
    (ended : Ended migration (.once use mishap) store (.error failure) after)
    (stored : store.readDescriptor = .ok (some previous)) :
    (after = store ∧ (use = .record → ∀ cause, failure ≠ .store cause)) ∨
      (use = .record ∧ failure = .store mishap ∧
        ∃ found built, migration.Due store found built ∧ after = migration.relevelled built store) := by
  cases ended with
  | unread cause =>
    refine .inl ⟨rfl, ?_⟩
    rintro rfl
    rcases cause with kind | params | unreadable
    · cases (Mishaps.once_eq_some.1 kind).1
    · cases (Mishaps.once_eq_some.1 params).1
    · exact absurd stored (unreadable _)
  | unadopted absent => cases stored.symm.trans absent
  | refused inside => exact .inl ⟨rfl, fun _ => inside⟩
  | unrecorded due preserved failed =>
    obtain ⟨same, rfl⟩ := Mishaps.once_eq_some.1 failed
    exact .inr ⟨same.symm, rfl, _, _, due, rfl⟩

theorem Ended.returned {result : Result} (ended : Ended migration mishaps store (.ok result) after)
    (wanted : migration.pace.enabled = true) (stored : store.readDescriptor = .ok (some previous)) :
    (previous = migration.descriptor ∧ after = store) ∨
      ∃ built, migration.Due store previous built ∧ Carried migration built store after result := by
  cases ended with
  | disabled unwanted => cases wanted.symm.trans unwanted
  | unchanged same =>
    cases stored.symm.trans same
    exact .inl ⟨rfl, rfl⟩
  | adopted absent => cases stored.symm.trans absent
  | migrated due preserved =>
    cases stored.symm.trans due.stored
    exact .inr ⟨_, due, carried_of_preserved due preserved⟩

theorem keepsLevels_of_untouched {result : Result} (ended : Ended migration mishaps store (.ok result) after)
    (wanted : migration.pace.enabled = true) (stored : store.readDescriptor = .ok (some previous))
    (rebuilt : previous.rebuild migration.directory = .ok old) :
    KeepsLevels old migration.formula store after ↔ (previous = migration.descriptor →
      ∀ row ∈ store.rows.pairs, migration.formula.levelForXp row.2 = old.levelForXp row.2) := by
  rcases ended.returned wanted stored with ⟨same, untouched⟩ | ⟨built, due, carried⟩
  · rw [untouched, keepsLevels_self_iff]
    exact ⟨fun equal _ => equal, fun equal => equal same⟩
  · cases rebuilt.symm.trans due.rebuilt
    exact ⟨fun _ same => absurd same due.differs, fun _ => carried.levels⟩

theorem keepsLevels_of_relevelled {result : Result}
    (ended : Ended migration mishaps (migration.relevelled old store) (.ok result) after)
    (wanted : migration.pace.enabled = true) (due : migration.Due store previous old) :
    KeepsLevels old migration.formula store after ↔ ∀ row ∈ store.rows.pairs,
      old.levelForXp (migration.formula.xpForLevel (old.levelForXp row.2)) = old.levelForXp row.2 := by
  have stored : (migration.relevelled old store).readDescriptor = .ok (some previous) := due.stored
  rcases ended.returned wanted stored with ⟨same, _⟩ | ⟨built, dueAgain, carried⟩
  · exact absurd same due.differs
  · cases due.rebuilt.symm.trans dueAgain.rebuilt
    have identities : (migration.relevelled old store).rows.keys = store.rows.keys := Entries.keys_map
    rw [keepsLevels_iff_of_later identities carried.levels, keepsLevels_relevelled_iff]

/-- When a migration in which nothing fails repairs one that failed at one use of the store. Unless the
formula is the same one, it does, with one exception: if the new descriptor could not be written, each row is
at a floor of the new formula, which the old one must give the level that the row had. -/
theorem rerun_keepsLevels_iff {use : StoreUse} {mishap : StoreFault} {failure : Fault} {result : Result}
    {pace : Pace} {observer : Option (Nat → Bool)} {first second : Ending}
    (stored : store.readDescriptor = .ok (some previous))
    (rebuilt : previous.rebuild migration.directory = .ok old)
    (ran : migration.run (.once use mishap) store = first) (raised : first.result = .error failure)
    (wanted : pace.enabled = true) (reran : run { migration with pace, observer } .none first.store = second)
    (returned : second.result = .ok result) :
    KeepsLevels old migration.formula store second.store ↔
      (previous = migration.descriptor →
        ∀ row ∈ store.rows.pairs, migration.formula.levelForXp row.2 = old.levelForXp row.2) ∧
      (use = .record → (∃ cause, failure = .store cause) → ∀ row ∈ store.rows.pairs,
        old.levelForXp (migration.formula.xpForLevel (old.levelForXp row.2)) = old.levelForXp row.2) := by
  have ended : Ended migration (.once use mishap) store (.error failure) first.store := by
    rw [← raised, ← ran]
    exact run_ended migration _ store
  have endedAgain : Ended { migration with pace, observer } .none first.store (.ok result) second.store := by
    rw [← returned, ← reran]
    exact run_ended _ _ first.store
  rcases ended.failed_once stored with ⟨kept, other⟩ | ⟨last, failed, found, built, due, rewritten⟩
  · -- The second run finds what the first one found.
    rw [kept] at endedAgain
    rw [keepsLevels_of_untouched endedAgain wanted stored rebuilt]
    exact ⟨fun equal => ⟨equal, fun last ⟨cause, failed⟩ => absurd failed (other last cause)⟩, And.left⟩
  · -- The second run takes floors of the new formula for XP of the old one.
    cases stored.symm.trans due.stored
    cases rebuilt.symm.trans due.rebuilt
    rw [rewritten] at endedAgain
    have dueAgain : Due { migration with pace, observer } store previous old := ⟨stored, due.differs, rebuilt⟩
    rw [keepsLevels_of_relevelled endedAgain wanted dueAgain]
    exact ⟨fun led => ⟨fun same => absurd same due.differs, fun _ _ => led⟩,
      fun conditions => conditions.2 last ⟨mishap, failed⟩⟩

theorem rerun_keepsLevels_iff_ten :
    let mishap := StoreFault.writeEntries [paramsKey, kindKey]
    let first := toTenEach.run (.once .record mishap) hundredStore
    let second := toTenEach.run .none first.store
    first.result = .error (.store mishap) ∧
      second.result = .ok ⟨.migrated, 2, 1, some (.describe .hundredEach)⟩ ∧
      (KeepsLevels .hundredEach toTenEach.formula hundredStore second.store ↔
        (Descriptor.describe .hundredEach = toTenEach.descriptor → ∀ row ∈ hundredStore.rows.pairs,
          toTenEach.formula.levelForXp row.2 = Formula.hundredEach.levelForXp row.2) ∧
        (StoreUse.record = .record → (∃ cause, Fault.store mishap = .store cause) →
          ∀ row ∈ hundredStore.rows.pairs,
            Formula.hundredEach.levelForXp (toTenEach.formula.xpForLevel (Formula.hundredEach.levelForXp row.2))
              = Formula.hundredEach.levelForXp row.2)) :=
  ⟨rfl, rfl, rerun_keepsLevels_iff rfl rfl rfl rfl rfl rfl rfl⟩

/-- If only the new descriptor could not be written, the levels can be lost: 500 XP are level 6 at first, are
rewritten to 50 XP and, once more, to none. -/
theorem rerun_loses_levels :
    let mishap := StoreFault.writeEntries [paramsKey, kindKey]
    let first := toTenEach.run (.once .record mishap) hundredStore
    let second := toTenEach.run .none first.store
    first.result = .error (.store mishap) ∧
      second.result = .ok ⟨.migrated, 2, 1, some (.describe .hundredEach)⟩ ∧
      ¬ KeepsLevels .hundredEach toTenEach.formula hundredStore second.store := by
  refine ⟨rfl, rfl, fun kept => ?_⟩
  obtain ⟨now, found, same⟩ := kept "ann" 500 rfl
  have lost : now = 0 := (Option.some.inj found).symm
  subst lost
  revert same
  decide

end Progression.Migration
