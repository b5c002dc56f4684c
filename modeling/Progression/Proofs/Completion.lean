import Progression.Proofs.Rerun

namespace Progression

theorem Scope.stage_of_fresh {scope : Scope} {rows : List (Identity × Int)}
    (fresh : (scope.staged.keys ++ rows.map Prod.fst).Nodup) (held : ∀ row ∈ rows, scope.kind.holds row.2 = true) :
    ∃ next, scope.stage rows = .ok next := by
  induction rows generalizing scope with
  | nil => exact ⟨scope, rfl⟩
  | cons row rest ih =>
    obtain ⟨identity, xp⟩ := row
    have absent : scope.staged.contains identity = false := by
      refine Bool.eq_false_iff.2 fun present => ?_
      exact (List.nodup_append.1 fresh).2.2 identity (Entries.contains_eq_true_iff.1 present) identity
        (List.mem_cons_self ..) rfl
    have keys : (scope.staged.put identity xp).keys = scope.staged.keys ++ [identity] := by
      rw [Entries.keys, Entries.pairs_put_of_absent absent, List.map_append]
      rfl
    rw [stage, if_neg (by simp [absent]), if_pos (held _ (List.mem_cons_self ..))]
    apply ih
    · rw [keys, List.append_assoc]
      exact fresh
    · exact fun row member => held row (List.mem_cons_of_mem _ member)

namespace Store

variable {store : Store}

/-- The scope that is opened of a store. -/
def scope (store : Store) : Scope := ⟨store.kind, store.intact, store.rows, ∅, ∅⟩

theorem openScope_of_ready (ready : store.Ready) : store.openScope = .ok store.scope :=
  if_neg (by simp [ready.1])

theorem stream_scope (ready : store.Ready) : store.scope.stream = .ok store.rows.pairs := by
  rw [Scope.stream]
  split
  · rfl
  · exact if_pos ready.2

end Store

namespace Migration

variable {migration : Migration} {store : Store} {previous : Descriptor} {old : Formula}

/-- Every row can be rewritten: its level is preserved, and the store holds the floor. -/
structure Fit (migration : Migration) (old : Formula) (store : Store) : Prop where
  preserved : ∀ row ∈ store.rows.pairs, migration.Preserves (old.levelForXp row.2)
  held : ∀ row ∈ store.rows.pairs, store.kind.holds (migration.rewritten old row).2 = true

theorem target_of_preserves {level : Nat} (preserved : migration.Preserves level) :
    migration.target level = .ok (migration.formula.xpForLevel level) :=
  if_pos preserved

namespace Rewrite

variable {rewrite next : Rewrite} {done rest : List (Identity × Int)} {row : Identity × Int}

/-- Rows that wait can be staged if, with those that are staged, they are rows of the store whose floors it holds. -/
theorem flush_of_held (rewrite : Rewrite) (kind : rewrite.scope.kind = store.kind)
    (all : store.rows.pairs = done ++ rest)
    (held : ∀ row ∈ done, store.kind.holds (migration.rewritten old row).2 = true)
    (rows : rewrite.scope.staged.pairs ++ rewrite.batch = done.map (migration.rewritten old)) :
    ∃ next, rewrite.flush migration .none = .ok next := by
  have distinct : ((done ++ rest).map Prod.fst).Nodup := all ▸ store.rows.distinct
  have fresh : ((rewrite.scope.staged.pairs ++ rewrite.batch).map Prod.fst).Nodup := by
    rw [List.map_append, List.nodup_append] at distinct
    rw [rows, List.map_map]
    exact distinct.1
  have kept : ∀ row ∈ rewrite.batch, rewrite.scope.kind.holds row.2 = true := by
    intro row member
    obtain ⟨source, present, rfl⟩ := List.mem_map.1 (rows ▸ List.mem_append_right _ member)
    rw [kind]
    exact held source present
  rw [List.map_append] at fresh
  obtain ⟨scope, staged⟩ := Scope.stage_of_fresh fresh kept
  exact ⟨_, bind_eq_ok.2 ⟨(), rfl, bind_eq_ok.2 ⟨scope, mapError_eq_ok.2 staged, rfl⟩⟩⟩

/-- How far rewriting the rows of a store has come, in a scope of this store. -/
structure Within (migration : Migration) (old : Formula) (store : Store) (done : List (Identity × Int))
    (rewrite : Rewrite) : Prop where
  progress : Progress migration old store.rows done rewrite
  kind : rewrite.scope.kind = store.kind
  intact : rewrite.scope.intact = true

theorem Within.add (inside : Within migration old store done rewrite)
    (success : rewrite.add migration old .none row = .ok next) :
    Within migration old store (done ++ [row]) next := by
  obtain ⟨_, _, ⟨staged, kept⟩, _⟩ := add_ok success
  exact ⟨inside.progress.add success, (congrArg Scope.kind kept).trans inside.kind,
    (congrArg Scope.intact kept).trans inside.intact⟩

theorem Within.addAll (inside : Within migration old store done rewrite) {rows : List (Identity × Int)}
    (success : rewrite.addAll migration old .none rows = (next, none)) :
    Within migration old store (done ++ rows) next := by
  induction rows generalizing rewrite done with
  | nil =>
    cases success
    rw [List.append_nil]
    exact inside
  | cons row later ih =>
    rw [Rewrite.addAll] at success
    cases added : rewrite.add migration old .none row with
    | error fault =>
      rw [added] at success
      cases success
    | ok extended =>
      rw [added] at success
      rw [List.append_cons]
      exact ih (inside.add added) success

theorem Within.targetOf (inside : Within migration old store done rewrite) {level : Nat}
    (preserved : migration.Preserves level) :
    rewrite.targetOf migration level = .ok (migration.formula.xpForLevel level) := by
  rw [Rewrite.targetOf]
  split
  · rename_i floor found
    rw [(inside.progress.known level floor found).1]
  · exact target_of_preserves preserved

theorem Within.exists_add (inside : Within migration old store done rewrite)
    (all : store.rows.pairs = done ++ row :: rest) (preserved : migration.Preserves (old.levelForXp row.2))
    (held : ∀ earlier ∈ done ++ [row], store.kind.holds (migration.rewritten old earlier).2 = true) :
    ∃ next, rewrite.add migration old .none row = .ok next := by
  have floor := inside.targetOf preserved
  have rows : rewrite.scope.staged.pairs ++ (rewrite.batch ++ [migration.rewritten old row])
      = (done ++ [row]).map (migration.rewritten old) := by
    rw [List.map_append, ← inside.progress.rows, List.append_assoc]
    rfl
  rw [List.append_cons] at all
  have gathers : ∃ gathered, (rewrite.await row.1 (old.levelForXp row.2)
      (migration.formula.xpForLevel (old.levelForXp row.2))).gather migration .none = .ok gathered := by
    rw [gather]
    split
    · exact flush_of_held _ inside.kind all held rows
    · exact ⟨_, rfl⟩
  obtain ⟨gathered, staged⟩ := gathers
  rw [add_eq]
  exact exists_bind_ok.2 ⟨(), rfl, exists_bind_ok.2 ⟨_, floor, exists_bind_ok.2 ⟨gathered, staged, _, rfl⟩⟩⟩

/-- Rows whose levels are preserved can be rewritten, from wherever rewriting has come. -/
theorem Within.exists_addAll (inside : Within migration old store done rewrite)
    {rows : List (Identity × Int)} (all : store.rows.pairs = done ++ (rows ++ rest))
    (preserved : ∀ row ∈ rows, migration.Preserves (old.levelForXp row.2))
    (held : ∀ row ∈ done ++ rows, store.kind.holds (migration.rewritten old row).2 = true) :
    ∃ next, rewrite.addAll migration old .none rows = (next, none) := by
  induction rows generalizing rewrite done with
  | nil => exact ⟨rewrite, rfl⟩
  | cons row later ih =>
    have heldNext : ∀ earlier ∈ done ++ [row], store.kind.holds (migration.rewritten old earlier).2 = true := by
      intro earlier member
      refine held earlier ?_
      rw [List.append_cons]
      exact List.mem_append_left _ member
    obtain ⟨extended, added⟩ := inside.exists_add all (preserved row (List.mem_cons_self ..)) heldNext
    rw [List.cons_append, List.append_cons] at all
    rw [List.append_cons] at held
    rw [Rewrite.addAll, added]
    exact ih (inside.add added) all (fun row member => preserved row (List.mem_cons_of_mem _ member)) held

theorem Within.exists_close (inside : Within migration old store store.rows.pairs rewrite)
    (fit : migration.Fit old store) : ∃ next, rewrite.close migration .none = .ok next := by
  have clears : ∃ cleared, rewrite.clear migration .none = .ok cleared := by
    rw [clear]
    split
    · exact ⟨rewrite, rfl⟩
    · exact flush_of_held rewrite inside.kind (List.append_nil _).symm fit.held inside.progress.rows
  obtain ⟨cleared, staged⟩ := clears
  obtain ⟨changed, same⟩ := (clear_even staged).1.scope
  have intact : cleared.scope.intact = true := by
    rw [same]
    exact inside.intact
  have applied : ∃ result, cleared.scope.apply.mapError (Fault.ofStore migration) = .ok result :=
    ⟨_, mapError_eq_ok.2 (if_pos intact)⟩
  obtain ⟨result, applied⟩ := applied
  rw [close_eq]
  exact exists_bind_ok.2 ⟨cleared, staged, exists_bind_ok.2 ⟨(), rfl, exists_bind_ok.2 ⟨result, applied, _, rfl⟩⟩⟩

end Rewrite

section Run

variable {rows count : Nat} {shared : Shared} {rewrite : Rewrite}

/-- Whether a migration that nothing befalls is over after a number of steps, without a fault. -/
def Finishes (migration : Migration) (rows count : Nat) (state : Shared × Phase) : Prop :=
  ∃ after result reports, steps migration .none rows count state = (after, .finished (.ok result) reports)

theorem Finishes.of_step {phase next : Phase} {after : Shared}
    (becomes : step migration .none rows shared phase = (after, next))
    (finishes : Finishes migration rows count (after, next)) : Finishes migration rows (count + 1) (shared, phase) := by
  rw [Finishes, steps, becomes]
  exact finishes

theorem finishes_finished {result : Result} {reports : List (Nat × Bool)} :
    Finishes migration rows count (shared, .finished (.ok result) reports) := by
  induction count with
  | zero => exact ⟨shared, result, reports, rfl⟩
  | succ count ih => exact ih

theorem record_of_ready (ready : shared.store.Ready) {result : Result} {reports : List (Nat × Bool)} :
    record migration .none shared result reports
      = ({ shared with store := migration.recorded shared.store }, .finished (.ok result) reports) := by
  have written : (do Mishaps.none.guard .record; shared.store.writeEntries (.ofList migration.descriptor.entries))
      = .ok (migration.recorded shared.store) := writeEntries_descriptor ready
  rw [record]
  simp only [written]

theorem finishes_recording (ready : shared.store.Ready) :
    Finishes migration rows (count + 1) (shared, .recording previous rewrite) :=
  .of_step (record_of_ready ready) finishes_finished

theorem finishes_closing (inside : Rewrite.Within migration old store store.rows.pairs rewrite)
    (fit : migration.Fit old store) (ready : store.Ready) :
    Finishes migration rows (count + 3) (⟨store, true⟩, .rewriting previous old [] rewrite) := by
  obtain ⟨closed, success⟩ := inside.exists_close fit
  have closing : step migration .none rows ⟨store, true⟩ (.rewriting previous old [] rewrite)
      = (⟨store, true⟩, .committing previous closed) := by
    rw [step, success]
  have written : (store.commit closed.scope).Ready := ready
  exact .of_step closing (.of_step rfl (finishes_recording written))

theorem finishes_rewriting (inside : Rewrite.Within migration old store [] rewrite)
    (fit : migration.Fit old store) (ready : store.Ready) (fits : store.rows.pairs.length ≤ rows) :
    Finishes migration rows (count + 4) (⟨store, true⟩, .rewriting previous old store.rows.pairs rewrite) := by
  have whole : store.rows.pairs = [] ++ (store.rows.pairs ++ []) := by simp
  obtain ⟨next, success⟩ := inside.exists_addAll whole fit.preserved fit.held
  have complete := inside.addAll success
  rw [List.nil_append] at complete
  cases all : store.rows.pairs with
  | nil =>
    rw [all] at success
    cases success
    exact finishes_closing complete fit ready
  | cons row rest =>
    rw [all] at success fits
    have added : step migration .none rows ⟨store, true⟩ (.rewriting previous old (row :: rest) rewrite)
        = (⟨store, true⟩, .rewriting previous old [] next) := by
      simp only [step]
      rw [List.take_of_length_le fits, success, List.drop_eq_nil_of_le fits]
    exact .of_step added (finishes_closing complete fit ready)

theorem step_opening (ready : store.Ready) :
    step migration .none rows ⟨store, false⟩ (.opening previous old)
      = (⟨store, true⟩, .rewriting previous old store.rows.pairs { scope := store.scope }) := by
  have found : (do
      Mishaps.none.guard .openScope
      let scope ← store.openScope
      return (scope, ← scope.stream)) = .ok (store.scope, store.rows.pairs) :=
    bind_eq_ok.2 ⟨(), rfl, bind_eq_ok.2 ⟨_, Store.openScope_of_ready ready,
      bind_eq_ok.2 ⟨_, Store.stream_scope ready, rfl⟩⟩⟩
  rw [step, openScope, if_neg (by simp), found]

/-- A migration that is wanted and due, and that has the time, comes to the rows in three steps. -/
theorem steps_rewriting (due : migration.Due store previous old) (wanted : migration.pace.enabled = true)
    (inTime : migration.pace.expired = false) :
    steps migration .none rows (count + 3) (⟨store, false⟩, .fresh)
      = steps migration .none rows count
          (⟨store, true⟩, .rewriting previous old store.rows.pairs { scope := store.scope }) := by
  obtain ⟨ready, stored⟩ := Store.readDescriptor_eq_ok.1 due.stored
  have kindRead : (do Mishaps.none.guard .readKind; store.readEntry kindKey) = .ok (store.metadata.get? kindKey) :=
    Store.readEntry_eq_ok.2 ⟨ready, rfl⟩
  have begun : step migration .none rows ⟨store, false⟩ .fresh
      = (⟨store, false⟩, .kindRead (store.metadata.get? kindKey)) := by
    rw [step, if_pos wanted, readKind, kindRead]
  have paramsRead : (do Mishaps.none.guard .readParams; store.readEntry paramsKey)
      = .ok (store.metadata.get? paramsKey) := Store.readEntry_eq_ok.2 ⟨ready, rfl⟩
  have settled : step migration .none rows ⟨store, false⟩ (.kindRead (store.metadata.get? kindKey))
      = (⟨store, false⟩, .opening previous old) := by
    rw [step, readParams, paramsRead]
    dsimp only
    rw [stored, settle, if_neg due.differs, due.rebuilt]
    dsimp only
    rw [if_neg (by simp [inTime])]
  simp only [steps, begun, settled, step_opening ready]

theorem within_start (ready : store.Ready) : Rewrite.Within migration old store [] { scope := store.scope } := by
  have start : Rewrite.Progress migration old store.scope.snapshot [] { scope := store.scope } :=
    Rewrite.progress_start rfl
  exact ⟨start, rfl, ready.2⟩

/-- A migration that is wanted and due, and that returns, has rewritten the rows. -/
theorem Ended.of_due {mishaps : Mishaps} {result : Result} {after : Store}
    (ended : Ended migration mishaps store (.ok result) after) (due : migration.Due store previous old)
    (wanted : migration.pace.enabled = true) :
    result = ⟨.migrated, store.rows.size, levelCount old store, some previous⟩ ∧
      after = migration.recorded (migration.relevelled old store) := by
  cases ended with
  | disabled unwanted => cases wanted.symm.trans unwanted
  | unchanged stored => exact absurd (Option.some.inj (Except.ok.inj (due.stored.symm.trans stored))) due.differs
  | adopted absent => cases due.stored.symm.trans absent
  | migrated again preserved =>
    obtain ⟨rfl, rfl⟩ := due.unique again
    exact ⟨rfl, rfl⟩

/-- A migration that is wanted and due, that nothing befalls and that has the time, migrates if every row can be
rewritten. -/
theorem run_of_fit (due : migration.Due store previous old) (wanted : migration.pace.enabled = true)
    (inTime : migration.pace.expired = false) (fit : migration.Fit old store) :
    (migration.run .none store).result = .ok ⟨.migrated, store.rows.size, levelCount old store, some previous⟩ ∧
      (migration.run .none store).store = migration.recorded (migration.relevelled old store) := by
  obtain ⟨ready, -⟩ := Store.readDescriptor_eq_ok.1 due.stored
  obtain ⟨after, result, reports, final⟩ : Finishes migration store.rows.size 7 (⟨store, false⟩, .fresh) := by
    rw [Finishes, steps_rewriting due wanted inTime]
    exact finishes_rewriting (within_start ready) fit ready le_rfl
  have returned : (migration.run .none store).result = .ok result := by
    simp only [run, finalState, final]
    rfl
  have ended : Ended migration .none store (.ok result) (migration.run .none store).store :=
    returned ▸ run_ended migration .none store
  obtain ⟨rfl, same⟩ := ended.of_due due wanted
  exact ⟨returned, same⟩

end Run

end Migration

end Progression
