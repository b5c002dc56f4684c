import Progression.Migration.Run
import Progression.Proofs.Formula
import Progression.Proofs.Rewrite

namespace Progression

theorem Store.readDescriptor_eq_ok {store : Store} {found : Option Descriptor} :
    store.readDescriptor = .ok found ↔ store.Ready ∧
      Descriptor.ofEntries? (store.metadata.get? kindKey) (store.metadata.get? paramsKey) = found := by
  rw [readDescriptor]
  constructor
  · intro success
    obtain ⟨kind, kindRead, success⟩ := bind_eq_ok.1 success
    obtain ⟨params, paramsRead, success⟩ := bind_eq_ok.1 success
    obtain ⟨ready, rfl⟩ := readEntry_eq_ok.1 kindRead
    obtain ⟨_, rfl⟩ := readEntry_eq_ok.1 paramsRead
    exact ⟨ready, Except.ok.inj success⟩
  · rintro ⟨ready, rfl⟩
    have read {key : String} : store.readEntry key = .ok (store.metadata.get? key) :=
      readEntry_eq_ok.2 ⟨ready, rfl⟩
    exact bind_eq_ok.2 ⟨_, read, bind_eq_ok.2 ⟨_, read, rfl⟩⟩

namespace Migration

variable {migration : Migration} {mishaps : Mishaps} {store : Store} {previous : Descriptor} {old : Formula}

theorem Mishaps.guard_error {α : Type} {use : StoreUse} {outcome : Except StoreFault α} {fault : StoreFault}
    (failure : (do mishaps.guard use; outcome) = .error fault) :
    mishaps use = some fault ∨ outcome = .error fault := by
  cases mishap : mishaps use with
  | some cause =>
    rw [guard, mishap] at failure
    cases failure
    exact .inl rfl
  | none =>
    rw [guard, mishap] at failure
    exact .inr failure

theorem readDescriptor_ne_ok {key : String} {fault : StoreFault} {found : Option Descriptor}
    (failure : store.readEntry key = .error fault) : store.readDescriptor ≠ .ok found := by
  intro success
  have read : store.readEntry key = .ok (store.metadata.get? key) :=
    Store.readEntry_eq_ok.2 ⟨(Store.readDescriptor_eq_ok.1 success).1, rfl⟩
  cases failure.symm.trans read

/-- Rows are to be rewritten: the descriptor in the store is another one, and its formula can be built. -/
structure Due (migration : Migration) (store : Store) (previous : Descriptor) (old : Formula) : Prop where
  stored : store.readDescriptor = .ok (some previous)
  differs : previous ≠ migration.descriptor
  rebuilt : previous.rebuild migration.directory = .ok old

theorem Due.unique {other : Descriptor} {rebuilt : Formula} (due : migration.Due store previous old)
    (same : migration.Due store other rebuilt) : previous = other ∧ old = rebuilt := by
  cases due.stored.symm.trans same.stored
  cases due.rebuilt.symm.trans same.rebuilt
  exact ⟨rfl, rfl⟩

/-- The store with each row at the floor of its level. -/
def relevelled (migration : Migration) (old : Formula) (store : Store) : Store :=
  { store with rows := store.rows.map fun _ xp => migration.formula.xpForLevel (old.levelForXp xp) }

/-- The store with the new descriptor. -/
def recorded (migration : Migration) (store : Store) : Store :=
  { store with metadata := store.metadata.putAll (Entries.ofList migration.descriptor.entries).pairs }

theorem writeEntries_descriptor (ready : store.Ready) :
    store.writeEntries (.ofList migration.descriptor.entries) = .ok (migration.recorded store) :=
  Store.writeEntries_of_reached ready

theorem get?_recorded {key : String} :
    (migration.recorded store).metadata.get? key =
      if paramsKey = key then some migration.descriptor.params
      else if kindKey = key then some migration.descriptor.kind else store.metadata.get? key := by
  have written : (Entries.ofList migration.descriptor.entries).get? key =
      if paramsKey = key then some migration.descriptor.params
      else if kindKey = key then some migration.descriptor.kind else none := by
    simp [Entries.ofList, Entries.putAll, Descriptor.entries]
  rw [recorded, Entries.get?_putAll, written]
  split
  · rfl
  · split <;> rfl

theorem readDescriptor_recorded (ready : store.Ready) :
    (migration.recorded store).readDescriptor = .ok (some migration.descriptor) := by
  refine Store.readDescriptor_eq_ok.2 ⟨ready, ?_⟩
  rw [get?_recorded, get?_recorded]
  rfl

/-- The number of levels that the rows of a store have. -/
def levelCount (old : Formula) (store : Store) : Nat := (store.rows.values.map old.levelForXp).dedup.length

/-- How a migration that has a store for itself may end: its result, and the store that it leaves. -/
inductive Ended (migration : Migration) (mishaps : Mishaps) (store : Store) :
    Except Fault Result → Store → Prop where
  | disabled (unwanted : migration.pace.enabled = false) :
    Ended migration mishaps store (.ok { status := .disabled }) store
  | unchanged (stored : store.readDescriptor = .ok (some migration.descriptor)) :
    Ended migration mishaps store (.ok { status := .unchanged, previous := some migration.descriptor }) store
  | adopted (absent : store.readDescriptor = .ok none) :
    Ended migration mishaps store (.ok { status := .adopted }) (migration.recorded store)
  /-- The descriptor in the store cannot be read. -/
  | unread {fault : StoreFault} (mishap : mishaps .readKind = some fault ∨ mishaps .readParams = some fault ∨
      ∀ found, store.readDescriptor ≠ .ok found) :
    Ended migration mishaps store (.error (.store fault)) store
  /-- There is no descriptor, and the new one cannot be written. -/
  | unadopted {fault : StoreFault} (absent : store.readDescriptor = .ok none) :
    Ended migration mishaps store (.error (.store fault)) store
  /-- Rows are not to be rewritten, or cannot be. -/
  | refused {fault : Fault} (inside : ∀ cause, fault ≠ .store cause) :
    Ended migration mishaps store (.error fault) store
  /-- Rows are rewritten, and the new descriptor cannot be written. -/
  | unrecorded {previous : Descriptor} {old : Formula} {fault : StoreFault}
    (due : migration.Due store previous old)
    (preserved : ∀ row ∈ store.rows.pairs, migration.Preserves (old.levelForXp row.2))
    (mishap : mishaps .record = some fault) :
    Ended migration mishaps store (.error (.store fault)) (migration.relevelled old store)
  | migrated {previous : Descriptor} {old : Formula} (due : migration.Due store previous old)
    (preserved : ∀ row ∈ store.rows.pairs, migration.Preserves (old.levelForXp row.2)) :
    Ended migration mishaps store (.ok ⟨.migrated, store.rows.size, levelCount old store, some previous⟩)
      (migration.recorded (migration.relevelled old store))

/-- Each row of a store has, in another store and under another formula, the level that it had. -/
def KeepsLevels (old new : Formula) (before after : Store) : Prop :=
  ∀ identity xp, before.rows.get? identity = some xp →
    ∃ now, after.rows.get? identity = some now ∧ new.levelForXp now = old.levelForXp xp

/-- Which levels are kept if the XP of every row is changed by one rule. -/
theorem keepsLevels_iff {new : Formula} {after : Store} {change : Int → Int}
    (changed : ∀ identity, after.rows.get? identity = (store.rows.get? identity).map change) :
    KeepsLevels old new store after ↔
      ∀ row ∈ store.rows.pairs, new.levelForXp (change row.2) = old.levelForXp row.2 := by
  constructor
  · intro kept row member
    have found : store.rows.get? row.1 = some row.2 := Entries.get?_eq_some_iff.2 member
    obtain ⟨now, foundNow, same⟩ := kept row.1 row.2 found
    rw [changed, found] at foundNow
    cases foundNow
    exact same
  · intro kept identity xp found
    refine ⟨change xp, (changed identity).trans (congrArg _ found), ?_⟩
    exact kept (identity, xp) (Entries.get?_eq_some_iff.1 found)

theorem get?_relevelled {identity : Identity} :
    (migration.relevelled old store).rows.get? identity
      = (store.rows.get? identity).map fun xp => migration.formula.xpForLevel (old.levelForXp xp) :=
  Entries.get?_map

theorem keepsLevels_relevelled_iff {new : Formula} :
    KeepsLevels old new store (migration.relevelled old store) ↔ ∀ row ∈ store.rows.pairs,
      new.levelForXp (migration.formula.xpForLevel (old.levelForXp row.2)) = old.levelForXp row.2 :=
  keepsLevels_iff fun _ => get?_relevelled

/-- All rows of a store are rewritten and applied. -/
structure Complete (migration : Migration) (old : Formula) (store : Store) (rewrite : Rewrite) : Prop where
  applied : rewrite.scope.applied = (migration.relevelled old store).rows
  levels : rewrite.targets.size = levelCount old store
  processed : rewrite.processed = store.rows.size
  preserved : ∀ row ∈ store.rows.pairs, migration.Preserves (old.levelForXp row.2)

theorem Complete.commit {rewrite : Rewrite} (complete : migration.Complete old store rewrite) :
    store.commit rewrite.scope = migration.relevelled old store := by
  rw [Store.commit, complete.applied, relevelled, Entries.putAll_map]

theorem Rewrite.Progress.complete {rewrite next : Rewrite}
    (progress : Progress migration old store.rows store.rows.pairs rewrite)
    (success : rewrite.close migration mishaps = .ok next) : migration.Complete old store next := by
  have known : ∀ row ∈ store.rows.pairs, row.1 ∈ store.rows.keys :=
    fun row member => List.mem_map.2 ⟨row, member, rfl⟩
  obtain ⟨applied, targets, processed⟩ := progress.close known success
  refine ⟨Entries.ext_pairs applied, ?_, processed.trans progress.processed, fun row => progress.preserves⟩
  rw [targets, progress.levels, levelCount, Entries.values, List.map_map]
  rfl

/-- What a migration that has a store for itself has done in each phase. -/
inductive Reached (migration : Migration) (mishaps : Mishaps) (store : Store) : Shared × Phase → Prop where
  | fresh : Reached migration mishaps store (⟨store, false⟩, .fresh)
  | kindRead {kind : Option String} (read : store.readEntry kindKey = .ok kind) :
    Reached migration mishaps store (⟨store, false⟩, .kindRead kind)
  | adopting (absent : store.readDescriptor = .ok none) :
    Reached migration mishaps store (⟨store, false⟩, .adopting)
  | opening {previous : Descriptor} {old : Formula} (due : migration.Due store previous old) :
    Reached migration mishaps store (⟨store, false⟩, .opening previous old)
  | rewriting {previous : Descriptor} {old : Formula} {done rest : List (Identity × Int)} {rewrite : Rewrite}
    (due : migration.Due store previous old) (progress : Rewrite.Progress migration old store.rows done rewrite)
    (all : store.rows.pairs = done ++ rest) :
    Reached migration mishaps store (⟨store, true⟩, .rewriting previous old rest rewrite)
  | committing {previous : Descriptor} {old : Formula} {rewrite : Rewrite}
    (due : migration.Due store previous old) (complete : migration.Complete old store rewrite) :
    Reached migration mishaps store (⟨store, true⟩, .committing previous rewrite)
  | recording {previous : Descriptor} {old : Formula} {rewrite : Rewrite}
    (due : migration.Due store previous old) (complete : migration.Complete old store rewrite) :
    Reached migration mishaps store (⟨migration.relevelled old store, false⟩, .recording previous rewrite)
  | finished {shared : Shared} {result : Except Fault Result} {reports : List (Nat × Bool)}
    (ended : Ended migration mishaps store result shared.store) :
    Reached migration mishaps store (shared, .finished result reports)

theorem reached_readKind : Reached migration mishaps store (⟨store, false⟩, readKind mishaps store) := by
  rw [readKind]
  split
  · rename_i fault failure
    rcases Mishaps.guard_error failure with mishap | failure
    · exact .finished (.unread (.inl mishap))
    · exact .finished (.unread (.inr (.inr fun _ => readDescriptor_ne_ok failure)))
  · rename_i kind success
    obtain ⟨_, _, read⟩ := bind_eq_ok.1 success
    exact .kindRead read

theorem reached_settle {found : Option Descriptor} (stored : store.readDescriptor = .ok found) :
    Reached migration mishaps store (⟨store, false⟩, settle migration found) := by
  cases found with
  | none => exact .adopting stored
  | some previous =>
    rw [settle]
    split
    · rename_i same
      exact .finished (same ▸ .unchanged (same ▸ stored))
    · rename_i differs
      split
      · exact .finished (.refused fun cause => by simp)
      · rename_i old rebuilt
        split
        · exact .finished (.refused fun cause => by simp)
        · exact .opening ⟨stored, differs, rebuilt⟩

theorem reached_readParams {kind : Option String} (read : store.readEntry kindKey = .ok kind) :
    Reached migration mishaps store (⟨store, false⟩, readParams migration mishaps store kind) := by
  rw [readParams]
  split
  · rename_i fault failure
    rcases Mishaps.guard_error failure with mishap | failure
    · exact .finished (.unread (.inr (.inl mishap)))
    · exact .finished (.unread (.inr (.inr fun _ => readDescriptor_ne_ok failure)))
  · rename_i params success
    obtain ⟨_, _, paramsRead⟩ := bind_eq_ok.1 success
    exact reached_settle (bind_eq_ok.2 ⟨kind, read, bind_eq_ok.2 ⟨params, paramsRead, rfl⟩⟩)

theorem reached_openScope (due : migration.Due store previous old) :
    Reached migration mishaps store (openScope migration mishaps ⟨store, false⟩ previous old) := by
  rw [openScope, if_neg (by simp)]
  split
  · exact .finished (.refused fun cause same => contained_ofStore cause (congrArg (Except.error (α := Unit)) same))
  · rename_i scope rows success
    obtain ⟨_, _, success⟩ := bind_eq_ok.1 success
    obtain ⟨opened, found, success⟩ := bind_eq_ok.1 success
    obtain ⟨seen, streamed, success⟩ := bind_eq_ok.1 success
    cases success
    obtain ⟨snapshot, fresh, rfl⟩ := Store.openScope_ok found streamed
    exact .rewriting due (snapshot ▸ Rewrite.progress_start fresh) (List.nil_append _).symm

theorem reached_adopting (absent : store.readDescriptor = .ok none) {reports : List (Nat × Bool)} :
    Reached migration mishaps store (record migration mishaps ⟨store, false⟩ { status := .adopted } reports) := by
  rw [record]
  dsimp only
  split
  · exact .finished (.unadopted absent)
  · rename_i written success
    obtain ⟨_, _, success⟩ := bind_eq_ok.1 success
    rw [writeEntries_descriptor (Store.readDescriptor_eq_ok.1 absent).1] at success
    cases success
    exact .finished (.adopted absent)

theorem reached_record {rewrite : Rewrite} (due : migration.Due store previous old)
    (complete : migration.Complete old store rewrite) {reports : List (Nat × Bool)} :
    Reached migration mishaps store (record migration mishaps ⟨migration.relevelled old store, false⟩
      ⟨.migrated, rewrite.processed, rewrite.targets.size, some previous⟩ reports) := by
  have ready : store.Ready := (Store.readDescriptor_eq_ok.1 due.stored).1
  have written : (migration.relevelled old store).writeEntries (.ofList migration.descriptor.entries)
      = .ok (migration.recorded (migration.relevelled old store)) := writeEntries_descriptor ready
  rw [record, complete.processed, complete.levels]
  dsimp only
  rw [written]
  split
  · rename_i fault failure
    rcases Mishaps.guard_error failure with mishap | failure
    · exact .finished (.unrecorded due complete.preserved mishap)
    · cases failure
  · rename_i after success
    obtain ⟨_, _, success⟩ := bind_eq_ok.1 success
    cases success
    exact .finished (.migrated due complete.preserved)

/-- A step leads from what a migration reached to what it reaches next. -/
theorem reached_step {count : Nat} {state : Shared × Phase} (reached : Reached migration mishaps store state) :
    Reached migration mishaps store (step migration mishaps count state.1 state.2) := by
  cases reached with
  | fresh =>
    rw [step]
    split
    · exact reached_readKind
    · rename_i unwanted
      exact .finished (.disabled (by simpa using unwanted))
  | kindRead read => exact reached_readParams read
  | adopting absent => exact reached_adopting absent
  | opening due => exact reached_openScope due
  | @rewriting previous old done rest rewrite due progress all =>
    cases rest with
    | nil =>
      -- No row is left, so that the rows done are those of the store.
      rw [List.append_nil] at all
      subst all
      rw [step]
      split
      · rename_i fault failure
        exact .finished (.refused fun cause same => Rewrite.close_contained cause (same ▸ failure))
      · rename_i closed success
        exact .committing due (progress.complete success)
    | cons row rest =>
      simp only [step]
      split
      · rename_i reached fault failure
        exact .finished (.refused (Rewrite.addAll_contained failure))
      · rename_i extended success
        refine .rewriting due (progress.addAll success) ?_
        rw [List.append_assoc, List.take_append_drop]
        exact all
  | committing due complete =>
    rw [step]
    split
    · exact .finished (.refused fun cause same =>
        contained_ofStore cause (congrArg (Except.error (α := Unit)) same))
    · rw [complete.commit]
      exact .recording due complete
  | recording due complete => exact reached_record due complete
  | finished ended => exact .finished ended

theorem reached_steps {rows count : Nat} {state : Shared × Phase}
    (reached : Reached migration mishaps store state) :
    Reached migration mishaps store (steps migration mishaps rows count state) := by
  induction count generalizing state with
  | zero => exact reached
  | succ count ih => exact ih (reached_step reached)

theorem Reached.ended {state : Shared × Phase} (reached : Reached migration mishaps store state)
    (isOver : state.2.result?.isSome) : Ended migration mishaps store (state.2.result?.get isOver) state.1.store := by
  cases reached with
  | finished ended => exact ended
  | _ => cases isOver

theorem result?_finalState :
    (finalState migration mishaps store).2.result? = some (migration.run mishaps store).result :=
  (Option.some_get _).symm

/-- A migration that has a store for itself ends in one of these ways. -/
theorem run_ended (migration : Migration) (mishaps : Mishaps) (store : Store) :
    Ended migration mishaps store (migration.run mishaps store).result (migration.run mishaps store).store :=
  (reached_steps .fresh).ended result?_finalState_isSome

/-- The phases that a migration comes to before it opens a scope. -/
inductive Before : Phase → Prop where
  | kindRead {kind : Option String} : Before (.kindRead kind)
  | adopting : Before .adopting
  | opening {previous : Descriptor} {old : Formula} : Before (.opening previous old)
  | idle {result : Result} (status : result.status ≠ .migrated) : Before (.finished (.ok result) [])
  | refused {fault : Fault} (outside : ∀ cause, fault ≠ .rewriting cause) : Before (give fault [])

theorem before_settle {found : Option Descriptor} : Before (settle migration found) := by
  cases found with
  | none => exact .adopting
  | some previous =>
    rw [settle]
    split
    · exact .idle (by simp)
    · split
      · exact .refused (by simp)
      · split
        · exact .refused (by simp)
        · exact .opening

theorem before_fresh {count : Nat} {shared : Shared} : Before (step migration mishaps count shared .fresh).2 := by
  rw [step]
  split
  · rw [readKind]
    split
    · exact .refused (by simp)
    · exact .kindRead
  · exact .idle (by simp)

theorem before_kindRead {count : Nat} {shared : Shared} {kind : Option String} :
    Before (step migration mishaps count shared (.kindRead kind)).2 := by
  rw [step, readParams]
  split
  · exact .refused (by simp)
  · exact before_settle

theorem record_cases {shared : Shared} {result : Result} {reports : List (Nat × Bool)} :
    (record migration mishaps shared result reports).2 = .finished (.ok result) reports ∨
      ∃ cause, (record migration mishaps shared result reports).2 = give (.store cause) reports := by
  rw [record]
  split
  · exact .inr ⟨_, rfl⟩
  · exact .inl rfl

/-- What a migration of a store comes to: no row is lost or made, each has the floor of its level and with it
the level, and besides the rows only the descriptor is another one. -/
structure Carried (migration : Migration) (old : Formula) (before after : Store) (result : Result) : Prop where
  identities : after.rows.keys = before.rows.keys
  floors : ∀ identity, after.rows.get? identity
    = (before.rows.get? identity).map fun xp => migration.formula.xpForLevel (old.levelForXp xp)
  levels : KeepsLevels old migration.formula before after
  descriptor : after.readDescriptor = .ok (some migration.descriptor)
  metadata : ∀ key, key ≠ kindKey → key ≠ paramsKey → after.metadata.get? key = before.metadata.get? key
  rows : result.rows = before.rows.size
  distinct : result.levels = levelCount old before

theorem carried_of_preserved (due : migration.Due store previous old)
    (preserved : ∀ row ∈ store.rows.pairs, migration.Preserves (old.levelForXp row.2)) :
    Carried migration old store (migration.recorded (migration.relevelled old store))
      ⟨.migrated, store.rows.size, levelCount old store, some previous⟩ where
  identities := Entries.keys_map
  floors identity := get?_relevelled
  levels := keepsLevels_relevelled_iff.2 preserved
  descriptor := readDescriptor_recorded (Store.readDescriptor_eq_ok.1 due.stored).1
  metadata key otherKind otherParams := by
    rw [get?_recorded, if_neg otherParams.symm, if_neg otherKind.symm]
    rfl
  rows := rfl
  distinct := rfl

theorem Ended.carried {result : Result} {after : Store} (ended : Ended migration mishaps store (.ok result) after)
    (migrated : result.status = .migrated) :
    ∃ previous old, migration.Due store previous old ∧ Carried migration old store after result := by
  cases ended with
  | disabled | unchanged | adopted => cases migrated
  | migrated due preserved => exact ⟨_, _, due, carried_of_preserved due preserved⟩

/-- A migration that says that it migrated has carried the levels over. -/
theorem migrated_carries_levels {result : Result} (stored : store.readDescriptor = .ok (some previous))
    (differs : previous ≠ migration.descriptor) (rebuilt : previous.rebuild migration.directory = .ok old)
    (returned : (migration.run mishaps store).result = .ok result) (migrated : result.status = .migrated) :
    Carried migration old store (migration.run mishaps store).store result := by
  have ended : Ended migration mishaps store (.ok result) (migration.run mishaps store).store :=
    returned ▸ run_ended migration mishaps store
  obtain ⟨found, built, due, carried⟩ := ended.carried migrated
  obtain ⟨rfl, rfl⟩ := due.unique ⟨stored, differs, rebuilt⟩
  exact carried

/-- Two rows and one more entry, of a store that counts 100 XP a level. -/
def hundredStore : Store where
  rows := .ofList [("ann", 500), ("bea", 40)]
  metadata := .ofList ((Descriptor.describe .hundredEach).entries ++ [("season", "3")])

def toTenEach : Migration where
  formula := .tenEach
  directory := .empty "data"

theorem migrated_carries_levels_to_ten :
    let result : Result := ⟨.migrated, 2, 2, some (.describe .hundredEach)⟩
    (toTenEach.run (fun _ => none) hundredStore).result = .ok result ∧
      Carried toTenEach .hundredEach hundredStore (toTenEach.run (fun _ => none) hundredStore).store
        result :=
  ⟨rfl, migrated_carries_levels rfl (by decide +kernel) rfl rfl rfl⟩

end Migration

end Progression
