import Mathlib.Data.Nat.Digits.Defs
import Progression.Proofs.Commits
import Progression.Proofs.Completion
import Progression.Proofs.Rebuild
import Progression.Proofs.Rivals

/-!
The range of stored XP. Services and migrations that share a store write nothing to it but clamped XP and floors of
formulas. All floors are within the range but those of a table that asks for more at its top; a migration to such a
table takes stored XP out of the range.
-/

namespace Progression

open Curve

/-- XP that is as it should be: none at the least, and the greatest XP at the most. -/
def XpInRange (xp : Int) : Prop := 0 ≤ xp ∧ xp ≤ maxXp

/-- All XP in a store is as it is asked for. -/
def Store.Keeps (allowed : Int → Prop) (store : Store) : Prop := ∀ row ∈ store.rows.pairs, allowed row.2

theorem Store.keeps_iff_of_single {allowed : Int → Prop} {store : Store} {identity : Identity} {xp : Int}
    (single : store.rows.pairs = [(identity, xp)]) : store.Keeps allowed ↔ allowed xp := by
  rw [Keeps, single, List.forall_mem_singleton]

namespace Entries

variable {κ α : Type} [DecidableEq κ] {entries : Entries κ α}

theorem mem_pairs_put {key : κ} {value : α} {pair : κ × α} (member : pair ∈ (entries.put key value).pairs) :
    pair = (key, value) ∨ pair ∈ entries.pairs := by
  have found : (entries.put key value).get? pair.1 = some pair.2 := get?_eq_some_iff.2 member
  rw [get?_put] at found
  split at found
  · rename_i same
    exact .inl (Prod.ext same.symm (Option.some.inj found).symm)
  · exact .inr (get?_eq_some_iff.1 found)

theorem mem_pairs_putAll {written : List (κ × α)} {pair : κ × α} (member : pair ∈ (entries.putAll written).pairs) :
    pair ∈ written ∨ pair ∈ entries.pairs := by
  induction written generalizing entries with
  | nil => exact .inr member
  | cons first rest ih =>
    rcases ih member with later | earlier
    · exact .inl (List.mem_cons_of_mem _ later)
    · rcases mem_pairs_put earlier with rfl | before
      · exact .inl (List.mem_cons_self ..)
      · exact .inr before

end Entries

section Floors

namespace LevelTable

variable {levels : LevelTable} {level : Int}

theorem xpForLevel_le_top : levels.xpForLevel level ≤ levels.xpForLevel levels.maxLevel := by
  rcases le_or_gt level levels.maxLevel with within | past
  · exact xpForLevel_monotone within
  · have top : levels.xpForLevel levels.maxLevel = listedFloor levels.floors levels.floors.size :=
      xpForLevel_past le_rfl
    rw [top, xpForLevel_past past.le]

theorem sub_one_le_xpForLevel (first : 1 ≤ level) (within : level ≤ levels.maxLevel) :
    level - 1 ≤ levels.xpForLevel level := by
  induction level, first using Int.leInduction with
  | base => simp [xpForLevel]
  | succ level first ih =>
    have inside : level ∈ Set.Icc 1 (levels.maxLevel : Int) := ⟨first, by omega⟩
    have next : level + 1 ∈ Set.Icc 1 (levels.maxLevel : Int) := ⟨by omega, within⟩
    have below : levels.xpForLevel level < levels.xpForLevel (level + 1) :=
      xpForLevel_strictMonoOn inside next (lt_add_one level)
    have before := ih inside.2
    omega

end LevelTable

namespace Formula

variable (formula : Formula) {level : Int}

theorem xpForLevel_le_maxXp (untabled : formula.kind ≠ .table) : formula.xpForLevel level ≤ maxXp := by
  cases formula with
  | exponential formula =>
    exact floorAt_le_maxXp formula.checked formula.maxLevel_pos fun _ _ computed => exponentialFloor_le_maxXp computed
  | linear formula => exact Linear.xpForLevel_le_maxXp
  | table => exact absurd rfl untabled
  | custom formula =>
    exact floorAt_le_maxXp formula.checked formula.maxLevel_pos fun _ _ computed => expressionFloor_le_maxXp computed

/-- All floors are within the range just if those of a table are up to its top. -/
theorem floors_inRange_iff :
    (∀ level, XpInRange (formula.xpForLevel level)) ↔
      ∀ levels, formula = .table levels → levels.xpForLevel levels.maxLevel ≤ maxXp := by
  constructor
  · rintro bounded levels rfl
    exact (bounded levels.maxLevel).2
  · intro bounded level
    refine ⟨formula.xpForLevel_nonneg, ?_⟩
    cases formula with
    | table levels => exact LevelTable.xpForLevel_le_top.trans (bounded levels rfl)
    | exponential | linear | custom => exact xpForLevel_le_maxXp _ (by simp [kind])

end Formula

end Floors

section Writers

variable {allowed : Int → Prop}

namespace Service

variable {L : Type} {service : Service L} {state after : State L} {task next : Task L} {world : World L}

/-- The XP that a task is about to save, if it is, is allowed. -/
def Saves (allowed : Int → Prop) (task : Task L) : Prop := ∀ old new, task.phase = .saving old new → allowed new

theorem Moved.clamped (moved : Moved service state task after next) {old new : Int}
    (saves : next.phase = .saving old new) : ∃ xp, new = clampXp xp := by
  have holds : next.phase.Holds := by
    rw [saves]
    trivial
  cases moved with
  | blocked | answered | entered | loaded | queried | abandoned | saved => cases saves
  | resumed | prepared =>
    cases saves
    exact ⟨_, rfl⟩
  | announced _ _ continued | told _ _ continued | returned _ _ _ continued => exact absurd holds continued.not_holds
  | idle ended => cases ended.symm.trans saves

theorem Moved.keeps (moved : Moved service state task after next) (saves : Saves allowed task)
    (keeps : state.store.Keeps allowed) : after.store.Keeps allowed := by
  intro row member
  rcases moved.saves with ⟨-, same⟩ | ⟨old, new, saving, rfl, rfl⟩
  · rw [same] at member
    exact keeps row member
  · rcases Entries.mem_pairs_put member with rfl | before
    · exact saves old new saving
    · exact keeps row before

variable [DecidableEq L]

theorem World.keeps_step (clamped : ∀ xp, allowed (clampXp xp)) (keeps : world.state.store.Keeps allowed)
    (saves : ∀ task ∈ world.tasks, Saves allowed task) (index : Nat) (outage : Outage) :
    (world.step service index outage).state.store.Keeps allowed ∧
      ∀ task ∈ (world.step service index outage).tasks, Saves allowed task := by
  cases present : world.tasks[index]? with
  | none =>
    rw [World.step_of_absent present]
    exact ⟨keeps, saves⟩
  | some task =>
    obtain ⟨after, next, moved, becomes⟩ := World.step_of_present service outage present
    rw [becomes]
    refine ⟨moved.keeps (saves task (List.mem_of_getElem? present)) keeps, forall_mem_set saves ?_⟩
    intro old new saving
    obtain ⟨xp, rfl⟩ := moved.clamped saving
    exact clamped xp

end Service

namespace Migration

variable {migration : Migration} {shared after : Shared} {phase next : Phase} {world : World}

/-- What a migration has ready to be written are floors of its formula. -/
def Floored (migration : Migration) : Phase → Prop
  | .rewriting _ old _ rewrite => ∃ snapshot done, Rewrite.Progress migration old snapshot done rewrite
  | .committing _ rewrite =>
    ∀ row ∈ rewrite.scope.applied.pairs, ∃ level, row.2 = migration.formula.xpForLevel level
  | _ => True

theorem Moved.floored (moved : Moved migration shared phase after next) (floored : migration.Floored phase) :
    migration.Floored next := by
  cases moved with
  | opened free snapshot fresh => exact ⟨_, [], Rewrite.progress_start fresh⟩
  | rewritten added =>
    obtain ⟨snapshot, done, progress⟩ := floored
    exact ⟨snapshot, _, progress.addAll added⟩
  | closed success =>
    obtain ⟨snapshot, done, progress⟩ := floored
    obtain ⟨staged, rows, applied, -⟩ := Rewrite.close_ok success
    intro row member
    rw [applied] at member
    have inside : row ∈ staged.pairs := (List.mem_filter.1 member).1
    rw [rows, progress.rows] at inside
    obtain ⟨source, -, rfl⟩ := List.mem_map.1 inside
    exact ⟨_, rfl⟩
  | disabled | kindRead | absent | unchanged | due | adopted | waiting | committed | recorded | idle => trivial

theorem Moved.keeps (moved : Moved migration shared phase after next) (floored : migration.Floored phase)
    (floors : ∀ level, allowed (migration.formula.xpForLevel level)) (keeps : shared.store.Keeps allowed) :
    after.store.Keeps allowed := by
  intro row member
  cases moved with
  | committed =>
    rcases Entries.mem_pairs_putAll member with written | before
    · obtain ⟨level, same⟩ := floored row written
      rw [same]
      exact floors level
    · exact keeps row before
  | _ => exact keeps row member

/-- If the floors of a formula are allowed, a migration to it stores nothing else, whether it fails or not. -/
theorem keeps_step (floored : migration.Floored phase)
    (floors : ∀ level, allowed (migration.formula.xpForLevel level)) (keeps : shared.store.Keeps allowed)
    (mishaps : Mishaps) (count : Nat) :
    (step migration mishaps count shared phase).1.store.Keeps allowed ∧
      migration.Floored (step migration mishaps count shared phase).2 := by
  rcases moved_step mishaps count phase migration shared with ⟨⟨fault, reports, failed⟩, same⟩ | moved
  · rw [same, failed]
    exact ⟨keeps, trivial⟩
  · exact ⟨moved.keeps floored floors keeps, moved.floored floored⟩

theorem World.keeps_step (keeps : world.shared.store.Keeps allowed)
    (floors : ∀ task ∈ world.tasks, ∀ level, allowed (task.1.formula.xpForLevel level))
    (floored : ∀ task ∈ world.tasks, task.1.Floored task.2) (index : Nat) (mishaps : Mishaps) (count : Nat) :
    let after := world.step index mishaps count
    after.shared.store.Keeps allowed ∧
      (∀ task ∈ after.tasks, ∀ level, allowed (task.1.formula.xpForLevel level)) ∧
      ∀ task ∈ after.tasks, task.1.Floored task.2 := by
  intro after
  simp only [after, World.step]
  split
  · exact ⟨keeps, floors, floored⟩
  · rename_i migration phase present
    have member : (migration, phase) ∈ world.tasks := List.mem_of_getElem? present
    have own := floors _ member
    obtain ⟨kept, next⟩ := Migration.keeps_step (floored _ member) own keeps mishaps count
    exact ⟨kept, forall_mem_set floors own, forall_mem_set floored next⟩

end Migration

end Writers

/-- The world of a service on a store that it shares. -/
def Service.World.on {L : Type} (world : World L) (store : Store) : World L :=
  ⟨{ world.state with store }, world.tasks⟩

/-- Services and migrations that share a store. The worlds of the services have their caches, locks and listeners; the
store in them is the shared one. -/
structure Site (L : Type) where
  services : List (Service L × Service.World L)
  migrations : Migration.World

namespace Site

variable {L : Type} [DecidableEq L]

def store (site : Site L) : Store := site.migrations.shared.store

/-- Whose turn it is, and what befalls it: a task of a service, or a migration and the number of rows that it does. -/
inductive Turn where
  | call (service task : Nat) (outage : Outage)
  | migrate (index : Nat) (mishaps : Migration.Mishaps) (count : Nat)

/-- Let a task of a service take a step on the shared store. -/
def call (site : Site L) (index task : Nat) (outage : Outage) : Site L :=
  match site.services[index]? with
  | none => site
  | some (service, world) =>
    let world := (world.on site.store).step service task outage
    { services := site.services.set index (service, world)
      migrations := ⟨{ site.migrations.shared with store := world.state.store }, site.migrations.tasks⟩ }

def step (site : Site L) : Turn → Site L
  | .call index task outage => site.call index task outage
  | .migrate index mishaps count => { site with migrations := site.migrations.step index mishaps count }

def run (site : Site L) (turns : List Turn) : Site L := turns.foldl step site

/-- Calls of services, and migrations, that are about to begin. -/
def begin (store : Store) (services : List (Service L × Service.State L × List Call)) (migrations : List Migration) :
    Site L where
  services := services.map fun (service, state, calls) => (service, ⟨state, calls.map fun call => { call }⟩)
  migrations := .begin store migrations

/-- All that is stored or about to be stored is allowed, and so are the floors of the formulas that are migrated to. -/
structure Keeps (allowed : Int → Prop) (site : Site L) : Prop where
  store : site.store.Keeps allowed
  saves : ∀ member ∈ site.services, ∀ task ∈ member.2.tasks, Service.Saves allowed task
  floors : ∀ task ∈ site.migrations.tasks, ∀ level, allowed (task.1.formula.xpForLevel level)
  floored : ∀ task ∈ site.migrations.tasks, task.1.Floored task.2

variable {allowed : Int → Prop} {site : Site L}

/-- The step lemma: if clamped XP is allowed, whoever takes a step keeps to what is allowed. -/
theorem Keeps.step (clamped : ∀ xp, allowed (clampXp xp)) (keeps : site.Keeps allowed) (turn : Turn) :
    (site.step turn).Keeps allowed := by
  cases turn with
  | call index task outage =>
    rw [Site.step, Site.call]
    split
    · exact keeps
    · rename_i service world present
      have saves : ∀ task ∈ (world.on site.store).tasks, Service.Saves allowed task :=
        keeps.saves _ (List.mem_of_getElem? present)
      have shared : (world.on site.store).state.store.Keeps allowed := keeps.store
      obtain ⟨store, saved⟩ := Service.World.keeps_step clamped shared saves task outage
      exact ⟨store, forall_mem_set keeps.saves saved, keeps.floors, keeps.floored⟩
  | migrate index mishaps count =>
    obtain ⟨store, floors, floored⟩ :=
      Migration.World.keeps_step keeps.store keeps.floors keeps.floored index mishaps count
    exact ⟨store, keeps.saves, floors, floored⟩

/-- The run lemma. -/
theorem Keeps.run (clamped : ∀ xp, allowed (clampXp xp)) (keeps : site.Keeps allowed) (turns : List Turn) :
    (site.run turns).Keeps allowed := by
  induction turns generalizing site with
  | nil => exact keeps
  | cons turn rest ih => exact ih (keeps.step clamped turn)

omit [DecidableEq L] in
theorem keeps_begin {store : Store} {services : List (Service L × Service.State L × List Call)}
    {migrations : List Migration} (keeps : store.Keeps allowed)
    (floors : ∀ migration ∈ migrations, ∀ level, allowed (migration.formula.xpForLevel level)) :
    (begin store services migrations).Keeps allowed := by
  refine ⟨keeps, fun member inside task fresh old new saving => ?_, fun task inside => ?_, fun task inside => ?_⟩
  · obtain ⟨⟨service, state, calls⟩, -, rfl⟩ := List.mem_map.1 inside
    obtain ⟨call, -, rfl⟩ := List.mem_map.1 fresh
    cases saving
  · obtain ⟨migration, member, rfl⟩ := List.mem_map.1 inside
    exact floors migration member
  · obtain ⟨migration, -, rfl⟩ := List.mem_map.1 inside
    trivial

theorem store_run_alone (migration : Migration) (mishaps : Migration.Mishaps) (store : Store) :
    ((begin store [] [migration] : Site L).run (List.replicate 7 (.migrate 0 mishaps store.rows.size))).store
      = (migration.run mishaps store).store := by
  have alone (rows count : Nat) (shared : Migration.Shared) (phase : Migration.Phase) :
      (run (⟨[], shared, [(migration, phase)]⟩ : Site L) (List.replicate count (.migrate 0 mishaps rows))).store
        = (migration.steps mishaps rows count (shared, phase)).1.store := by
    induction count generalizing shared phase with
    | zero => rfl
    | succ count ih => exact ih _ _
  exact alone store.rows.size 7 ⟨store, false⟩ .fresh

end Site

namespace LevelTable

variable {levels : LevelTable}

/-- The top of a table, or a level below it that is past the range in any case. -/
def farLevel (levels : LevelTable) : Nat := min levels.maxLevel (maxXp.toNat + 2)

theorem farLevel_pos : 1 ≤ levels.farLevel := by
  have positive : 1 ≤ levels.maxLevel := levels.nonempty
  rw [farLevel]
  omega

theorem farLevel_le_maxLevel : levels.farLevel ≤ levels.maxLevel := min_le_left _ _

theorem maxXp_lt_xpForLevel_farLevel (far : maxXp < levels.xpForLevel levels.maxLevel) :
    maxXp < levels.xpForLevel levels.farLevel := by
  rcases le_total levels.maxLevel (maxXp.toNat + 2) with near | past
  · rwa [farLevel, min_eq_left near]
  · rw [farLevel, min_eq_right past]
    have floor : ((maxXp.toNat + 2 : Nat) : Int) - 1 ≤ levels.xpForLevel (maxXp.toNat + 2 : Nat) :=
      sub_one_le_xpForLevel (by omega) (by exact_mod_cast past)
    omega

/-- Levels that cost nothing, as many of them. -/
def freeLevels (levels : LevelTable) : Formula := .linear ⟨0, levels.farLevel, farLevel_pos, by simp [maxXp]⟩

/-- One row, which is at the top of the levels that cost nothing. -/
def freeStore (levels : LevelTable) : Store where
  rows := .ofList [("ann", 0)]
  metadata := .ofList (Descriptor.describe levels.freeLevels).entries

/-- A migration to a table. -/
def migration (levels : LevelTable) : Migration := { Migration.toTenEach with formula := .table levels }

theorem printable_freeLevels : levels.freeLevels.Printable := by
  have digits (n : Nat) (small : n < 10 ^ 20) : (toString n).length ≤ Number.maxIntegerDigits :=
    (Nat.repr_length n 20 (by decide) small).trans (by decide)
  have small : levels.farLevel < 10 ^ 20 := by
    have bounded : levels.farLevel ≤ maxXp.toNat + 2 := min_le_right _ _
    have top : maxXp.toNat + 2 < 10 ^ 20 := by decide
    omega
  intro n member
  simp only [Formula.integers, freeLevels, List.mem_cons, List.not_mem_nil, or_false] at member
  rcases member with rfl | rfl
  · exact digits _ small
  · exact digits 0 (by decide)

theorem due_migration (levels : LevelTable) :
    levels.migration.Due levels.freeStore (.describe levels.freeLevels) levels.freeLevels := by
  refine ⟨rfl, fun same => ?_, Descriptor.rebuild_describe (.linear Linear.make?_self) nofun printable_freeLevels⟩
  have kinds := congrArg Descriptor.kind same
  rw [Migration.descriptor, Descriptor.kind_describe, Descriptor.kind_describe] at kinds
  cases Descriptor.name_injective kinds

theorem fit_migration (levels : LevelTable) : levels.migration.Fit levels.freeLevels levels.freeStore := by
  constructor
  · intro row member
    obtain rfl := List.mem_singleton.1 member
    have top : levels.freeLevels.levelForXp 0 = levels.farLevel := rfl
    have first : (1 : Int) ≤ levels.farLevel := by exact_mod_cast farLevel_pos
    have last : (levels.farLevel : Int) ≤ (Formula.table levels).maxLevel := by
      exact_mod_cast farLevel_le_maxLevel
    rw [top, Migration.Preserves]
    exact_mod_cast (Formula.table levels).levelForXp_xpForLevel rfl first last
  · exact fun row member => rfl

/-- A migration to a table that asks for more than the greatest XP at its top may store such XP. -/
theorem migration_escapes (far : maxXp < levels.xpForLevel levels.maxLevel) :
    ¬ (levels.migration.run .none levels.freeStore).store.Keeps XpInRange := by
  have after := (Migration.run_of_fit (due_migration levels) rfl rfl (fit_migration levels)).2
  rw [after, Store.keeps_iff_of_single rfl]
  exact fun inside => not_le.2 (maxXp_lt_xpForLevel_farLevel far) inside.2

end LevelTable

namespace Site

/-- Stored XP stays within its range, whatever services and migrations do to a store that they share and in whichever
turns, just if no table that is migrated to asks for more than the greatest XP at its top. All floors of the other
formulas are within the range, and all XP that a call may save. -/
theorem rows_stay_inRange_iff (L : Type) [DecidableEq L] (allowed : Formula → Prop) :
    ((∀ (store : Store) (services : List (Service L × Service.State L × List Call)) (migrations : List Migration)
        (turns : List Turn), store.kind = .memory → store.Keeps XpInRange →
        (∀ migration ∈ migrations, allowed migration.formula) →
        ((begin store services migrations).run turns).store.Keeps XpInRange) ↔
      ∀ levels, allowed (.table levels) → levels.xpForLevel levels.maxLevel ≤ maxXp) ∧
    (∀ formula : Formula, (∀ level, XpInRange (formula.xpForLevel level)) ↔
      ∀ levels, formula = .table levels → levels.xpForLevel levels.maxLevel ≤ maxXp) ∧
    ∀ (formula : Formula) (mutation : Mutation) (xp : Int), XpInRange (mutation.apply formula xp) := by
  refine ⟨⟨fun stays levels migrated => ?_, fun bounded => ?_⟩, Formula.floors_inRange_iff, fun _ _ _ => clampXp_mem⟩
  · by_contra far
    have inside : XpInRange 0 := @clampXp_mem 0
    have start : levels.freeStore.Keeps XpInRange := (Store.keeps_iff_of_single rfl).2 inside
    have only : ∀ migration ∈ [levels.migration], allowed migration.formula := by
      intro migration member
      obtain rfl := List.mem_singleton.1 member
      exact migrated
    have after := stays levels.freeStore [] [levels.migration]
      (List.replicate 7 (.migrate 0 .none levels.freeStore.rows.size)) rfl start only
    rw [store_run_alone] at after
    exact LevelTable.migration_escapes (not_le.1 far) after
  · intro store services migrations turns _ keeps allowed
    have floors (migration : Migration) (member : migration ∈ migrations) :
        ∀ level, XpInRange (migration.formula.xpForLevel level) :=
      (Formula.floors_inRange_iff _).2 fun levels tabled => bounded levels (tabled ▸ allowed migration member)
    exact ((keeps_begin keeps floors).run (fun _ => clampXp_mem) turns).store

end Site

namespace LevelTable

/-- Two levels, the second of which asks for one XP more than the greatest. -/
def pastRange : LevelTable where
  floors := #[0, 0x8000000000000000]
  source := "levels.csv"
  nonempty := by decide
  first := rfl
  checked := by simp [check, checkFrom, listedFloor]

/-- One row at the second level, of a store that counts 100 XP a level. -/
def hundredOnce : Store where
  rows := .ofList [("ann", 100)]
  metadata := .ofList (Descriptor.describe .hundredEach).entries

/-- XP can leave the range: a table with a floor past it is accepted, and a migration to it writes this floor. -/
theorem migration_leaves_range :
    make? #[0, 0x8000000000000000] "levels.csv" = .ok pastRange ∧ hundredOnce.Keeps XpInRange ∧
      (pastRange.migration.run .none hundredOnce).result
        = .ok ⟨.migrated, 1, 1, some (.describe .hundredEach)⟩ ∧
      ¬ (pastRange.migration.run .none hundredOnce).store.Keeps XpInRange := by
  have inside : XpInRange 100 := @clampXp_mem 100
  have start : hundredOnce.Keeps XpInRange := (Store.keeps_iff_of_single rfl).2 inside
  have due : pastRange.migration.Due hundredOnce (.describe .hundredEach) .hundredEach :=
    ⟨rfl, by decide +kernel, rfl⟩
  have fit : pastRange.migration.Fit .hundredEach hundredOnce := by
    refine ⟨fun row member => ?_, fun _ _ => rfl⟩
    obtain rfl := List.mem_singleton.1 member
    have second : ((Formula.table pastRange).levelForXp ((Formula.table pastRange).xpForLevel 2) : Int) = 2 :=
      Formula.levelForXp_xpForLevel _ rfl (by decide) (by decide)
    exact Int.ofNat.inj second
  obtain ⟨returned, after⟩ := Migration.run_of_fit due rfl rfl fit
  refine ⟨make?_self pastRange, start, returned, fun keeps => ?_⟩
  rw [after, Store.keeps_iff_of_single rfl] at keeps
  have past : maxXp < 0x8000000000000000 := by decide
  exact not_le.2 past keeps.2

end LevelTable

end Progression
