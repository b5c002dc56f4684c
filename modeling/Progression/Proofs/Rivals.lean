import Mathlib.Logic.Function.Iterate
import Progression.Proofs.Descriptor
import Progression.Proofs.Migration

/-!
Migrations of one store to one formula that take turns. Which formula the rows were made by is read before the
scope is entered and not asked again inside it, so that each migration that finds the old descriptor rewrites the
rows once more by the old formula, whoever rewrote them in between.
-/

namespace Progression

/-- An amount of XP rewritten once: the floor under the new formula of its level under the old one. -/
def Formula.relevel (old new : Formula) (xp : Int) : Int := new.xpForLevel (old.levelForXp xp)

namespace Migration

variable {migration : Migration} {mishaps : Mishaps} {count : Nat} {shared after : Shared} {phase next : Phase}

namespace Phase

/-- Whether a migration has failed. -/
def Failed (phase : Phase) : Prop := ∃ fault reports, phase = .finished (.error fault) reports

/-- Whether a migration is in the scope. -/
def Inside : Phase → Prop
  | .rewriting _ _ _ _ | .committing _ _ => True
  | _ => False

/-- Whether a migration that has not failed has rewritten the rows. -/
def hasRewritten : Phase → Bool
  | .recording _ _ => true
  | .finished (.ok result) _ => result.status = .migrated
  | _ => false

end Phase

/-- What a step of a migration that does not fail does to the store and to its phase. -/
inductive Moved (migration : Migration) (shared : Shared) : Phase → Shared → Phase → Prop where
  | disabled (unwanted : migration.pace.enabled = false) :
    Moved migration shared .fresh shared (.finished (.ok { status := .disabled }) [])
  | kindRead : Moved migration shared .fresh shared (.kindRead (shared.store.metadata.get? kindKey))
  | absent {kind : Option String}
    (read : Descriptor.ofEntries? kind (shared.store.metadata.get? paramsKey) = none) :
    Moved migration shared (.kindRead kind) shared .adopting
  | unchanged {kind : Option String}
    (read : Descriptor.ofEntries? kind (shared.store.metadata.get? paramsKey) = some migration.descriptor) :
    Moved migration shared (.kindRead kind) shared
      (.finished (.ok { status := .unchanged, previous := some migration.descriptor }) [])
  | due {kind : Option String} {previous : Descriptor} {old : Formula}
    (read : Descriptor.ofEntries? kind (shared.store.metadata.get? paramsKey) = some previous)
    (differs : previous ≠ migration.descriptor) (rebuilt : previous.rebuild migration.directory = .ok old) :
    Moved migration shared (.kindRead kind) shared (.opening previous old)
  | adopted :
    Moved migration shared .adopting { shared with store := migration.recorded shared.store }
      (.finished (.ok { status := .adopted }) [])
  | waiting {previous : Descriptor} {old : Formula} :
    Moved migration shared (.opening previous old) shared (.opening previous old)
  | opened {previous : Descriptor} {old : Formula} {scope : Scope} (free : shared.scopeOpen = false)
    (snapshot : scope.snapshot = shared.store.rows) (fresh : scope.staged = ∅) :
    Moved migration shared (.opening previous old) { shared with scopeOpen := true }
      (.rewriting previous old shared.store.rows.pairs { scope })
  | rewritten {previous : Descriptor} {old : Formula} {rest : List (Identity × Int)} {rewrite further : Rewrite}
    {mishaps : Mishaps} {count : Nat}
    (added : rewrite.addAll migration old mishaps (rest.take count) = (further, none)) :
    Moved migration shared (.rewriting previous old rest rewrite) shared
      (.rewriting previous old (rest.drop count) further)
  | closed {previous : Descriptor} {old : Formula} {rewrite complete : Rewrite} {mishaps : Mishaps}
    (success : rewrite.close migration mishaps = .ok complete) :
    Moved migration shared (.rewriting previous old [] rewrite) shared (.committing previous complete)
  | committed {previous : Descriptor} {rewrite : Rewrite} :
    Moved migration shared (.committing previous rewrite) ⟨shared.store.commit rewrite.scope, false⟩
      (.recording previous rewrite)
  | recorded {previous : Descriptor} {rewrite : Rewrite} {reports : List (Nat × Bool)} {result : Result}
    (status : result.status = .migrated) :
    Moved migration shared (.recording previous rewrite) { shared with store := migration.recorded shared.store }
      (.finished (.ok result) reports)
  | idle {result : Except Fault Result} {reports : List (Nat × Bool)} :
    Moved migration shared (.finished result reports) shared (.finished result reports)

/-- Whether a migration fails in a step, which leaves the store as it is, or makes a move. -/
def FailsOrMoves (migration : Migration) (shared : Shared) (phase : Phase) (outcome : Shared × Phase) : Prop :=
  (outcome.2.Failed ∧ outcome.1.store = shared.store) ∨ Moved migration shared phase outcome.1 outcome.2

theorem fails {fault : Fault} {reports : List (Nat × Bool)} (same : after.store = shared.store) :
    FailsOrMoves migration shared phase (after, give fault reports) := .inl ⟨⟨fault, reports, rfl⟩, same⟩

theorem moved_readKind : FailsOrMoves migration shared .fresh (shared, readKind mishaps shared.store) := by
  rw [readKind]
  split
  · exact fails rfl
  · rename_i kind success
    obtain ⟨_, _, read⟩ := bind_eq_ok.1 success
    rw [← (Store.readEntry_eq_ok.1 read).2]
    exact .inr .kindRead

theorem moved_settle {kind : Option String} : FailsOrMoves migration shared (.kindRead kind)
    (shared, settle migration (Descriptor.ofEntries? kind (shared.store.metadata.get? paramsKey))) := by
  cases found : Descriptor.ofEntries? kind (shared.store.metadata.get? paramsKey) with
  | none => exact .inr (.absent found)
  | some previous =>
    rw [settle]
    split
    · rename_i same
      subst same
      exact .inr (.unchanged found)
    · rename_i differs
      split
      · exact fails rfl
      · rename_i old rebuilt
        split
        · exact fails rfl
        · exact .inr (.due found differs rebuilt)

theorem moved_readParams {kind : Option String} : FailsOrMoves migration shared (.kindRead kind)
    (shared, readParams migration mishaps shared.store kind) := by
  rw [readParams]
  split
  · exact fails rfl
  · rename_i params success
    obtain ⟨_, _, read⟩ := bind_eq_ok.1 success
    obtain ⟨-, rfl⟩ := Store.readEntry_eq_ok.1 read
    exact moved_settle

theorem moved_openScope {previous : Descriptor} {old : Formula} : FailsOrMoves migration shared (.opening previous old)
    (openScope migration mishaps shared previous old) := by
  rw [openScope]
  split
  · exact .inr .waiting
  · rename_i free
    split
    · exact fails rfl
    · rename_i scope rows success
      obtain ⟨_, _, success⟩ := bind_eq_ok.1 success
      obtain ⟨opened, found, success⟩ := bind_eq_ok.1 success
      obtain ⟨seen, streamed, success⟩ := bind_eq_ok.1 success
      cases success
      obtain ⟨snapshot, fresh, rfl⟩ := Store.openScope_ok found streamed
      exact .inr (.opened (by simpa using free) snapshot fresh)

theorem moved_record {result : Result} {reports : List (Nat × Bool)}
    (moved : Moved migration shared phase { shared with store := migration.recorded shared.store }
      (.finished (.ok result) reports)) :
    FailsOrMoves migration shared phase (record migration mishaps shared result reports) := by
  rw [record]
  split
  · exact fails rfl
  · rename_i store success
    obtain ⟨_, _, success⟩ := bind_eq_ok.1 success
    cases Store.writeEntries_ok success
    exact .inr moved

theorem moved_step (mishaps : Mishaps) (count : Nat) (phase : Phase) (migration : Migration) (shared : Shared) :
    FailsOrMoves migration shared phase (step migration mishaps count shared phase) := by
  cases phase with
  | fresh =>
    rw [step]
    split
    · exact moved_readKind
    · rename_i unwanted
      exact .inr (.disabled (by simpa using unwanted))
  | kindRead kind => exact moved_readParams
  | adopting => exact moved_record .adopted
  | opening previous old => exact moved_openScope
  | rewriting previous old rest rewrite =>
    cases rest with
    | nil =>
      rw [step]
      split
      · exact fails rfl
      · rename_i complete success
        exact .inr (.closed success)
    | cons row rest =>
      simp only [step]
      split
      · exact fails rfl
      · rename_i further added
        exact .inr (.rewritten added)
  | committing previous rewrite =>
    rw [step]
    split
    · exact fails rfl
    · exact .inr .committed
  | recording previous rewrite => exact moved_record (.recorded rfl)
  | finished result reports => exact .inr .idle

/-- A store whose descriptor is that of the new formula. -/
def Recorded (new : Formula) (store : Store) : Prop := store.readDescriptor = .ok (some (.describe new))

/-- A migration that takes part: it leads to the new formula, is wanted, and finds the old formula as it was. -/
structure Rival (old new : Formula) (migration : Migration) : Prop where
  formula : migration.formula = new
  wanted : migration.pace.enabled = true
  found : old.FoundIn migration.directory

/-- What the phase of a migration says of the store that it shares. -/
def Stands (old new : Formula) (store : Store) (migration : Migration) : Phase → Prop
  | .kindRead kind => kind = some old.kind.name ∨ kind = some new.kind.name ∧ Recorded new store
  | .adopting => False
  | .opening _ built => old.Alike built
  | .rewriting _ built rest rewrite => old.Alike built ∧ ∃ done,
    Rewrite.Progress migration built store.rows done rewrite ∧ store.rows.pairs = done ++ rest
  | .committing _ rewrite => ∃ built, old.Alike built ∧ migration.Complete built store rewrite
  | .finished (.ok result) _ => Recorded new store ∧ (result.status = .unchanged ∨ result.status = .migrated)
  | _ => True

/-- How many migrations have rewritten the rows. -/
def World.rewrites (world : World) : Nat := world.tasks.countP fun task => task.2.hasRewritten

section Moves

variable {old new : Formula}

/-- Rows change only by a migration that is in the scope. -/
theorem Moved.rows (moved : Moved migration shared phase after next) :
    phase.Inside ∨ after.store.rows = shared.store.rows := by
  cases moved with
  | committed => exact .inl trivial
  | _ => exact .inr rfl

theorem Moved.enters (moved : Moved migration shared phase after next) (inside : next.Inside) :
    phase.Inside ∨ shared.scopeOpen = false := by
  cases moved with
  | opened free => exact .inr free
  | rewritten | closed => exact .inl trivial
  | _ => exact inside.elim

theorem Moved.taken (moved : Moved migration shared phase after next)
    (taken : phase.Inside → shared.scopeOpen = true) (inside : next.Inside) : after.scopeOpen = true := by
  cases moved with
  | opened => rfl
  | rewritten | closed => exact taken trivial
  | _ => exact inside.elim

theorem Moved.leaves (moved : Moved migration shared phase after next) (taken : shared.scopeOpen = true) :
    phase.Inside ∨ after.scopeOpen = true := by
  cases moved with
  | committed => exact .inl trivial
  | opened => exact .inr rfl
  | _ => exact .inr taken

theorem recorded_recorded (formula : migration.formula = new) {store : Store}
    (ready : store.Ready) : Recorded new (migration.recorded store) :=
  formula ▸ readDescriptor_recorded ready

theorem Moved.recorded_of (moved : Moved migration shared phase after next) (formula : migration.formula = new)
    (recorded : Recorded new shared.store) : Recorded new after.store := by
  have ready := (Store.readDescriptor_eq_ok.1 recorded).1
  cases moved with
  | adopted | recorded => exact recorded_recorded formula ready
  | committed => exact Store.readDescriptor_eq_ok.2 (Store.readDescriptor_eq_ok.1 recorded)
  | _ => exact recorded

theorem entries_of_readDescriptor {store : Store} {descriptor : Descriptor}
    (stored : store.readDescriptor = .ok (some descriptor)) :
    store.metadata.get? kindKey = some descriptor.kind ∧ store.metadata.get? paramsKey = some descriptor.params := by
  obtain ⟨-, found⟩ := Store.readDescriptor_eq_ok.1 stored
  cases kind : store.metadata.get? kindKey <;> cases params : store.metadata.get? paramsKey <;>
    simp [kind, params, Descriptor.ofEntries?] at found
  subst found
  exact ⟨rfl, rfl⟩

/-- What two readings of a store find: a descriptor that was there, or the kind of the old formula with the
parameters of the new one. -/
theorem read_cases {kind : Option String} {previous : Descriptor} {store : Store}
    (descriptor : store.readDescriptor = .ok (some (.describe old)) ∨ Recorded new store)
    (kinds : kind = some old.kind.name ∨ kind = some new.kind.name ∧ Recorded new store)
    (read : Descriptor.ofEntries? kind (store.metadata.get? paramsKey) = some previous) :
    previous = .describe old ∧ store.readDescriptor = .ok (some (.describe old)) ∨
      Recorded new store ∧ (previous = .describe new ∨
        previous = ⟨old.kind.name, (Descriptor.describe new).params⟩ ∧ old.kind ≠ new.kind) := by
  have whole (formula : Formula) :
      ⟨formula.kind.name, (Descriptor.describe formula).params⟩ = Descriptor.describe formula := by
    rw [← Descriptor.kind_describe]
  rcases descriptor with stored | stored
  · rw [(entries_of_readDescriptor stored).2] at read
    rcases kinds with rfl | ⟨rfl, recorded⟩
    · exact .inl ⟨(Option.some.inj read).symm.trans (whole old), stored⟩
    · have same : Descriptor.describe old = .describe new :=
        Option.some.inj (Except.ok.inj (stored.symm.trans recorded))
      rw [same] at read
      exact .inr ⟨recorded, .inl ((Option.some.inj read).symm.trans (whole new))⟩
  · rw [(entries_of_readDescriptor stored).2] at read
    refine .inr ⟨stored, ?_⟩
    rcases kinds with rfl | ⟨rfl, -⟩
    · by_cases same : old.kind = new.kind
      · exact .inl ((Option.some.inj read).symm.trans (same ▸ whole new))
      · exact .inr ⟨(Option.some.inj read).symm, same⟩
    · exact .inl ((Option.some.inj read).symm.trans (whole new))

theorem alike_of_read {kind : Option String} {previous : Descriptor} {built : Formula}
    (rival : Rival old new migration)
    (descriptor : shared.store.readDescriptor = .ok (some (.describe old)) ∨ Recorded new shared.store)
    (kinds : kind = some old.kind.name ∨ kind = some new.kind.name ∧ Recorded new shared.store)
    (read : Descriptor.ofEntries? kind (shared.store.metadata.get? paramsKey) = some previous)
    (differs : previous ≠ migration.descriptor) (rebuilt : previous.rebuild migration.directory = .ok built) :
    old.Alike built := by
  rcases read_cases descriptor kinds read with ⟨rfl, -⟩ | ⟨-, same | ⟨rfl, different⟩⟩
  · exact Formula.alike_of_rebuild rival.found rebuilt
  · exact absurd (same.trans (congrArg Descriptor.describe rival.formula).symm) differs
  · exact absurd rebuilt (Descriptor.rebuild_other different)

theorem recorded_of_read {kind : Option String} (rival : Rival old new migration)
    (descriptor : shared.store.readDescriptor = .ok (some (.describe old)) ∨ Recorded new shared.store)
    (kinds : kind = some old.kind.name ∨ kind = some new.kind.name ∧ Recorded new shared.store)
    (read : Descriptor.ofEntries? kind (shared.store.metadata.get? paramsKey) = some migration.descriptor) :
    Recorded new shared.store := by
  rcases read_cases descriptor kinds read with ⟨same, stored⟩ | ⟨stored, -⟩
  · have formula : migration.descriptor = .describe new := congrArg Descriptor.describe rival.formula
    rwa [← same, formula] at stored
  · exact stored

theorem Moved.stands (moved : Moved migration shared phase after next) (rival : Rival old new migration)
    (descriptor : shared.store.readDescriptor = .ok (some (.describe old)) ∨ Recorded new shared.store)
    (stands : Stands old new shared.store migration phase) : Stands old new after.store migration next := by
  cases moved with
  | disabled unwanted =>
    rw [rival.wanted] at unwanted
    cases unwanted
  | kindRead =>
    rcases descriptor with stored | stored
    · exact .inl ((entries_of_readDescriptor stored).1.trans (congrArg some Descriptor.kind_describe))
    · exact .inr ⟨(entries_of_readDescriptor stored).1.trans (congrArg some Descriptor.kind_describe), stored⟩
  | absent read =>
    have params : (shared.store.metadata.get? paramsKey).isSome := by
      rcases descriptor with stored | stored <;> simp [(entries_of_readDescriptor stored).2]
    obtain ⟨params, found⟩ := Option.isSome_iff_exists.1 params
    rcases stands with rfl | ⟨rfl, -⟩ <;> simp [found, Descriptor.ofEntries?] at read
  | unchanged read => exact ⟨recorded_of_read rival descriptor stands read, .inl rfl⟩
  | due read differs rebuilt => exact alike_of_read rival descriptor stands read differs rebuilt
  | adopted => exact stands.elim
  | waiting => exact stands
  | opened free snapshot fresh => exact ⟨stands, [], snapshot ▸ Rewrite.progress_start fresh, rfl⟩
  | rewritten added =>
    obtain ⟨alike, done, progress, all⟩ := stands
    refine ⟨alike, _, progress.addAll added, ?_⟩
    rw [List.append_assoc, List.take_append_drop]
    exact all
  | closed success =>
    obtain ⟨alike, done, progress, all⟩ := stands
    rw [List.append_nil] at all
    subst all
    exact ⟨_, alike, progress.complete success⟩
  | committed => trivial
  | recorded status =>
    have ready : shared.store.Ready := by
      rcases descriptor with stored | stored <;> exact (Store.readDescriptor_eq_ok.1 stored).1
    exact ⟨recorded_recorded rival.formula ready, .inr status⟩
  | idle => exact stands

end Moves

/-- What holds of the tasks of rival migrations, as long as none has failed. -/
structure Orderly (old new : Formula) (world : World) : Prop where
  rivals : ∀ task ∈ world.tasks, Rival old new task.1
  stands : ∀ task ∈ world.tasks, Stands old new world.shared.store task.1 task.2
  /-- No two migrations are in the scope. -/
  alone : ∀ {index other : Nat} {task rival : Migration × Phase}, world.tasks[index]? = some task →
    world.tasks[other]? = some rival → task.2.Inside → rival.2.Inside → index = other
  taken : ∀ task ∈ world.tasks, task.2.Inside → world.shared.scopeOpen = true

/-- What holds of their store besides. -/
structure Contest (old new : Formula) (start : Store) (world : World) : Prop extends Orderly old new world where
  ready : world.shared.store.Ready
  /-- Each migration that went through the scope has rewritten each row. -/
  rows : world.shared.store.rows = start.rows.map fun _ => (old.relevel new)^[world.rewrites]
  preserved : ∀ times < world.rewrites, ∀ row ∈ start.rows.pairs,
    new.levelForXp ((old.relevel new)^[times + 1] row.2) = old.levelForXp ((old.relevel new)^[times] row.2)
  descriptor : world.shared.store.readDescriptor = .ok (some (.describe old)) ∨
    Recorded new world.shared.store ∧ 1 ≤ world.rewrites
  metadata : ∀ key, key ≠ kindKey → key ≠ paramsKey →
    world.shared.store.metadata.get? key = start.metadata.get? key

section Steps

variable {old new : Formula} {start : Store} {world : World} {index : Nat}

/-- The store may change behind the back of a migration as long as it is not in the scope. -/
theorem Stands.frame {store changed : Store} (stands : Stands old new store migration phase)
    (recorded : Recorded new store → Recorded new changed) (rows : phase.Inside → changed.rows = store.rows) :
    Stands old new changed migration phase := by
  cases phase with
  | fresh | recording => trivial
  | adopting => exact stands
  | kindRead => exact stands.imp_right (And.imp_right recorded)
  | opening => exact stands
  | rewriting =>
    rw [Stands, rows trivial]
    exact stands
  | committing =>
    obtain ⟨built, alike, complete⟩ := stands
    have same := rows trivial
    refine ⟨built, alike, ?_, ?_, ?_, ?_⟩
    · rw [complete.applied, relevelled, relevelled, same]
    · rw [complete.levels, levelCount, levelCount, same]
    · rw [complete.processed, same]
    · rw [same]
      exact complete.preserved
  | finished result =>
    cases result with
    | error => trivial
    | ok => exact stands.imp_left recorded

theorem Orderly.clash (orderly : Orderly old new world) (present : world.tasks[index]? = some (migration, phase))
    (moved : Moved migration world.shared phase after next) {other : Nat} {task : Migration × Phase}
    (different : other ≠ index) (found : world.tasks[other]? = some task) (entered : task.2.Inside) :
    ¬ next.Inside := by
  intro enters
  rcases moved.enters enters with also | free
  · exact different (orderly.alone found present entered also)
  · rw [orderly.taken task (List.mem_of_getElem? found) entered] at free
    cases free

theorem Orderly.moved (orderly : Orderly old new world) (present : world.tasks[index]? = some (migration, phase))
    (descriptor : world.shared.store.readDescriptor = .ok (some (.describe old)) ∨ Recorded new world.shared.store)
    (moved : Moved migration world.shared phase after next) :
    Orderly old new ⟨after, world.tasks.set index (migration, next)⟩ := by
  have member : (migration, phase) ∈ world.tasks := List.mem_of_getElem? present
  have rival := orderly.rivals _ member
  -- Who is in the scope besides the task keeps the task out of it.
  have away {other : Nat} {task : Migration × Phase} (different : other ≠ index)
      (found : world.tasks[other]? = some task) (inside : task.2.Inside) : ¬ phase.Inside :=
    fun also => different (orderly.alone found present inside also)
  have stood {task : Migration × Phase} (inside : task ∈ world.tasks.set index (migration, next)) :
      task = (migration, next) ∨ ∃ other, other ≠ index ∧ world.tasks[other]? = some task := by
    obtain ⟨other, found⟩ := List.mem_iff_getElem?.1 inside
    exact (getElem?_set_cases found).imp And.right fun earlier => ⟨other, earlier⟩
  refine ⟨fun task inside => ?_, fun task inside => ?_, fun leftFound rightFound left right => ?_,
    fun task inside entered => ?_⟩
  · rcases stood inside with rfl | ⟨other, -, found⟩
    · exact rival
    · exact orderly.rivals task (List.mem_of_getElem? found)
  · rcases stood inside with rfl | ⟨other, different, found⟩
    · exact moved.stands rival descriptor (orderly.stands _ member)
    · refine (orderly.stands task (List.mem_of_getElem? found)).frame (moved.recorded_of rival.formula)
        fun entered => ?_
      exact moved.rows.resolve_left (away different found entered)
  · exact alone_set (fun left right => left.2.Inside ∧ right.2.Inside) And.symm
      (fun leftFound rightFound both => orderly.alone leftFound rightFound both.1 both.2)
      (fun different found both => orderly.clash present moved different found both.1 both.2)
      leftFound rightFound ⟨left, right⟩
  · rcases stood inside with rfl | ⟨other, different, found⟩
    · exact moved.taken (orderly.taken _ member) entered
    · have taken := orderly.taken task (List.mem_of_getElem? found) entered
      exact (moved.leaves taken).resolve_left (away different found entered)

theorem rewrites_set (after : Shared) (next : Phase) (present : world.tasks[index]? = some (migration, phase)) :
    World.rewrites ⟨after, world.tasks.set index (migration, next)⟩ + phase.hasRewritten.toNat
      = world.rewrites + next.hasRewritten.toNat := by
  obtain ⟨inside, found⟩ := List.getElem?_eq_some_iff.1 present
  rw [World.rewrites, World.rewrites, List.countP_set inside, found]
  cases old : phase.hasRewritten with
  | false => cases next.hasRewritten <;> simp
  | true =>
    have positive : 0 < world.tasks.countP fun task => task.2.hasRewritten :=
      List.countP_pos_iff.2 ⟨_, List.mem_of_getElem? present, old⟩
    cases next.hasRewritten <;> simp <;> omega

/-- Leaving the scope rewrites each row once more, by the formula that is like the old one. -/
theorem rows_commit {built : Formula} {store : Store} {rewrite : Rewrite} (rival : Rival old new migration)
    (alike : old.Alike built) (complete : migration.Complete built store rewrite) :
    (store.commit rewrite.scope).rows = store.rows.map fun _ => old.relevel new := by
  have change : (fun (_ : Identity) xp => migration.formula.xpForLevel (built.levelForXp xp))
      = fun _ => old.relevel new := by
    funext identity xp
    rw [Formula.relevel, alike.levelForXp, rival.formula]
  rw [complete.commit, ← change]
  rfl

theorem Contest.of_same_store {tasks : List (Migration × Phase)} (contest : Contest old new start world)
    (orderly : Orderly old new ⟨after, tasks⟩) (store : after.store = world.shared.store)
    (rewrites : World.rewrites ⟨after, tasks⟩ = world.rewrites) : Contest old new start ⟨after, tasks⟩ where
  toOrderly := orderly
  ready := store ▸ contest.ready
  rows := by rw [rewrites, store, contest.rows]
  preserved := rewrites ▸ contest.preserved
  descriptor := by rw [rewrites, store]; exact contest.descriptor
  metadata := store ▸ contest.metadata

/-- A migration that leaves the scope has rewritten the rows once more, and each level before is the level under the
new formula. -/
theorem Contest.committed (contest : Contest old new start world) {tasks : List (Migration × Phase)}
    (orderly : Orderly old new ⟨after, tasks⟩) {built : Formula} {rewrite : Rewrite}
    (store : after.store = world.shared.store.commit rewrite.scope)
    (once : World.rewrites ⟨after, tasks⟩ = world.rewrites + 1) (rival : Rival old new migration)
    (alike : old.Alike built) (complete : migration.Complete built world.shared.store rewrite) :
    Contest old new start ⟨after, tasks⟩ := by
  have kept {descriptor : Option Descriptor} (stored : world.shared.store.readDescriptor = .ok descriptor) :
      after.store.readDescriptor = .ok descriptor :=
    store ▸ Store.readDescriptor_eq_ok.2 (Store.readDescriptor_eq_ok.1 stored)
  refine ⟨orderly, store ▸ contest.ready, ?_, ?_, ?_, store ▸ contest.metadata⟩
  · rw [once, store, rows_commit rival alike complete, contest.rows, Entries.map_map]
    simp only [Function.iterate_succ', Function.comp_def]
  · rw [once]
    intro times below row inside
    rcases Nat.lt_succ_iff_lt_or_eq.1 below with earlier | rfl
    · exact contest.preserved times earlier row inside
    · have reached : (row.1, (old.relevel new)^[world.rewrites] row.2) ∈ world.shared.store.rows.pairs := by
        rw [contest.rows]
        exact List.mem_map.2 ⟨row, inside, rfl⟩
      have preserved := complete.preserved _ reached
      rw [Preserves, rival.formula, ← alike.levelForXp] at preserved
      rw [Function.iterate_succ_apply']
      exact preserved
  · exact contest.descriptor.imp kept fun ⟨stored, counted⟩ => ⟨kept stored, once ▸ Nat.le_succ_of_le counted⟩

theorem Contest.recorded (contest : Contest old new start world) {tasks : List (Migration × Phase)}
    (orderly : Orderly old new ⟨after, tasks⟩) (rival : Rival old new migration)
    (store : after.store = migration.recorded world.shared.store)
    (same : World.rewrites ⟨after, tasks⟩ = world.rewrites) (counted : 1 ≤ world.rewrites) :
    Contest old new start ⟨after, tasks⟩ := by
  refine ⟨orderly, store ▸ contest.ready, ?_, same ▸ contest.preserved, .inr ⟨?_, same ▸ counted⟩,
    fun key other another => ?_⟩
  · rw [same, store]
    exact contest.rows
  · exact store ▸ recorded_recorded rival.formula contest.ready
  · rw [store, get?_recorded, if_neg another.symm, if_neg other.symm]
    exact contest.metadata key other another

/-- The step lemma: the contest goes on, if the step does not fail. -/
theorem Contest.moved (contest : Contest old new start world)
    (present : world.tasks[index]? = some (migration, phase))
    (moved : Moved migration world.shared phase after next) :
    Contest old new start ⟨after, world.tasks.set index (migration, next)⟩ := by
  have member : (migration, phase) ∈ world.tasks := List.mem_of_getElem? present
  have rival := contest.rivals _ member
  have orderly := contest.toOrderly.moved present (contest.descriptor.imp_right And.left) moved
  have rewrites := rewrites_set after next present
  have same (count : next.hasRewritten = phase.hasRewritten) :
      World.rewrites ⟨after, world.tasks.set index (migration, next)⟩ = world.rewrites := by
    rw [count] at rewrites
    exact Nat.add_right_cancel rewrites
  have stands := contest.stands _ member
  cases moved with
  | adopted => exact stands.elim
  | @committed previous rewrite =>
    obtain ⟨built, alike, complete⟩ := stands
    exact contest.committed orderly rfl rewrites rival alike complete
  | recorded status =>
    have counted : 1 ≤ world.rewrites := List.countP_pos_iff.2 ⟨_, member, rfl⟩
    exact contest.recorded orderly rival rfl (same (by simp [Phase.hasRewritten, status])) counted
  | unchanged | disabled | idle | kindRead | absent | due | waiting | opened | rewritten | closed =>
    exact contest.of_same_store orderly rfl (same rfl)

/-- Some migration has failed. -/
def World.Lost (world : World) : Prop :=
  ∃ (index : Nat) (task : Migration × Phase), world.tasks[index]? = some task ∧ task.2.Failed

theorem World.Lost.step (lost : world.Lost) {turn : Nat} : (world.step turn mishaps count).Lost := by
  obtain ⟨index, task, present, fault, reports, failed⟩ := lost
  rw [World.step]
  split
  · exact ⟨index, task, present, fault, reports, failed⟩
  · rename_i migration phase found
    by_cases own : index = turn
    · subst own
      cases present.symm.trans found
      subst failed
      exact ⟨index, _, (getElem?_set_of_some found index).trans (if_pos rfl), fault, reports, rfl⟩
    · exact ⟨index, task, by simp [getElem?_set_of_some found, own, present], fault, reports, failed⟩

theorem Contest.step (contest : Contest old new start world) (turn : Nat) (mishaps : Mishaps) (count : Nat) :
    (world.step turn mishaps count).Lost ∨ Contest old new start (world.step turn mishaps count) := by
  rw [World.step]
  split
  · exact .inr contest
  · rename_i migration phase found
    rcases moved_step mishaps count phase migration world.shared with ⟨failed, -⟩ | moved
    · exact .inl ⟨turn, _, (getElem?_set_of_some found turn).trans (if_pos rfl), failed⟩
    · exact .inr (contest.moved found moved)

/-- The run lemma: along every schedule the contest goes on, or some migration fails. -/
theorem Contest.run (contest : Contest old new start world) (schedule : List (Nat × Mishaps × Nat)) :
    (world.run schedule).Lost ∨ Contest old new start (world.run schedule) := by
  have later (schedule : List (Nat × Mishaps × Nat)) {world : World} (lost : world.Lost) :
      (world.run schedule).Lost := by
    induction schedule generalizing world with
    | nil => exact lost
    | cons turn rest ih => exact ih lost.step
  induction schedule generalizing world with
  | nil => exact .inr contest
  | cons turn rest ih =>
    rcases contest.step turn.1 turn.2.1 turn.2.2 with lost | contest
    · exact .inl (later rest lost)
    · exact ih contest

/-- Migrations that are about to begin. -/
def World.begin (store : Store) (migrations : List Migration) : World :=
  ⟨⟨store, false⟩, migrations.map fun migration => (migration, .fresh)⟩

theorem contest_begin {migrations : List Migration} (rivals : ∀ migration ∈ migrations, Rival old new migration)
    (stored : start.readDescriptor = .ok (some (.describe old))) :
    Contest old new start (World.begin start migrations) := by
  have fresh {task : Migration × Phase} (member : task ∈ (World.begin start migrations).tasks) :
      ∃ migration ∈ migrations, task = (migration, .fresh) := by
    obtain ⟨migration, inside, rfl⟩ := List.mem_map.1 member
    exact ⟨migration, inside, rfl⟩
  have none : (World.begin start migrations).rewrites = 0 := by
    rw [World.rewrites, List.countP_eq_zero]
    intro task member
    obtain ⟨migration, -, rfl⟩ := fresh member
    simp [Phase.hasRewritten]
  refine ⟨⟨fun task member => ?_, fun task member => ?_, fun found _ inside => ?_, fun task member inside => ?_⟩,
    (Store.readDescriptor_eq_ok.1 stored).1, ?_, ?_, .inl stored, fun _ _ _ => rfl⟩
  · obtain ⟨migration, inside, rfl⟩ := fresh member
    exact rivals migration inside
  · obtain ⟨migration, -, rfl⟩ := fresh member
    trivial
  · obtain ⟨migration, -, rfl⟩ := fresh (List.mem_of_getElem? found)
    exact inside.elim
  · obtain ⟨migration, -, rfl⟩ := fresh member
    exact inside.elim
  · rw [none]
    exact (Entries.ext_pairs (List.map_id' start.rows.pairs)).symm
  · rw [none]
    exact fun times below => absurd below (Nat.not_lt_zero _)

end Steps

/-- Whether a migration is over and says that it migrated. -/
def saysMigrated : Option (Except Fault Result) → Bool
  | some (.ok result) => result.status = .migrated
  | _ => false

/-- What rival migrations come to of which a number has rewritten the rows: each row is rewritten that many times by
the old formula, and nothing else is another but the descriptor. -/
structure Repeated (old new : Formula) (times : Nat) (before after : Store) : Prop where
  descriptor : after.readDescriptor = .ok (some (.describe new))
  identities : after.rows.keys = before.rows.keys
  floors : ∀ identity, after.rows.get? identity = (before.rows.get? identity).map (old.relevel new)^[times]
  metadata : ∀ key, key ≠ kindKey → key ≠ paramsKey → after.metadata.get? key = before.metadata.get? key
  once : 1 ≤ times
  /-- The levels are kept just if the rewriting before the last one left the levels under the old formula. -/
  levels : KeepsLevels old new before after ↔ ∀ row ∈ before.rows.pairs,
    old.levelForXp ((old.relevel new)^[times - 1] row.2) = old.levelForXp row.2

section Returns

variable {old new : Formula} {start : Store} {world : World} {results : List Result}

theorem finished_of_returned
    (returned : world.tasks.map (fun task => task.2.result?) = results.map fun result => some (.ok result)) :
    ∀ task ∈ world.tasks, ∃ result reports, task.2 = .finished (.ok result) reports := by
  intro task member
  have led : task.2.result? ∈ results.map fun result => some (.ok result) :=
    returned ▸ List.mem_map.2 ⟨task, member, rfl⟩
  obtain ⟨result, -, same⟩ := List.mem_map.1 led
  cases phase : task.2 <;> simp [phase, Phase.result?] at same
  exact ⟨_, _, by rw [← same]⟩

theorem World.rewrites_of_returned
    (returned : world.tasks.map (fun task => task.2.result?) = results.map fun result => some (.ok result)) :
    world.rewrites = results.countP fun result => result.status = .migrated := by
  have told := congrArg (List.countP saysMigrated) returned
  rw [List.countP_map, List.countP_map] at told
  refine Eq.trans (List.countP_congr fun task member => ?_) told
  obtain ⟨_, _, same⟩ := finished_of_returned returned task member
  simp [same, Phase.hasRewritten, Phase.result?, saysMigrated]

theorem Contest.repeated (contest : Contest old new start world) (recorded : Recorded new world.shared.store)
    (differs : Descriptor.describe old ≠ .describe new) :
    Repeated old new world.rewrites start world.shared.store := by
  have once : 1 ≤ world.rewrites := by
    rcases contest.descriptor with stored | recorded
    · exact absurd (Option.some.inj (Except.ok.inj (stored.symm.trans recorded))) differs
    · exact recorded.2
  have floors (identity : Identity) : world.shared.store.rows.get? identity
      = (start.rows.get? identity).map (old.relevel new)^[world.rewrites] := by
    rw [contest.rows, Entries.get?_map]
  refine ⟨recorded, contest.rows ▸ Entries.keys_map, floors, contest.metadata, once, ?_⟩
  rw [keepsLevels_iff floors]
  refine forall₂_congr fun row inside => ?_
  have last := contest.preserved (world.rewrites - 1) (by omega) row inside
  rw [Nat.sub_add_cancel once] at last
  rw [last]

end Returns

/-- Rival migrations that return, whatever their turns: as many as say that they migrated have each rewritten the
rows by the old formula, also those that found them rewritten. -/
theorem rivals_repeat {old new : Formula} {start : Store} {migrations : List Migration} {results : List Result}
    {schedule : List (Nat × Mishaps × Nat)} (several : results ≠ [])
    (rivals : ∀ migration ∈ migrations, Rival old new migration)
    (stored : start.readDescriptor = .ok (some (.describe old)))
    (differs : Descriptor.describe old ≠ .describe new)
    (returned : ((World.begin start migrations).run schedule).tasks.map (fun task => task.2.result?)
      = results.map fun result => some (.ok result)) :
    Repeated old new (results.countP fun result => result.status = .migrated) start
      ((World.begin start migrations).run schedule).shared.store := by
  have outcome := (contest_begin rivals stored).run schedule
  have counted := World.rewrites_of_returned returned
  have ended := finished_of_returned returned
  generalize (World.begin start migrations).run schedule = world at outcome returned counted ended ⊢
  rcases outcome with ⟨index, task, present, fault, reports, failed⟩ | contest
  · obtain ⟨_, _, same⟩ := ended task (List.mem_of_getElem? present)
    cases failed.symm.trans same
  · obtain ⟨task, member⟩ : ∃ task, task ∈ world.tasks := by
      refine List.exists_mem_of_ne_nil _ fun none => several ?_
      rw [none] at returned
      exact List.map_eq_nil_iff.1 returned.symm
    have recorded : Recorded new world.shared.store := by
      obtain ⟨_, _, same⟩ := ended task member
      have stands := contest.stands task member
      rw [same] at stands
      exact stands.1
    exact counted ▸ contest.repeated recorded differs

/-- Turns of two migrations: the second one reads the descriptor while the first one is in the scope. -/
def racing : List (Nat × Mishaps × Nat) :=
  [0, 0, 0, 1, 1, 1, 0, 0, 0, 0, 1, 1, 1, 1, 1].map fun index => (index, fun _ => none, 2)

theorem rivals_repeat_racing :
    let results : List Result := [⟨.migrated, 2, 2, some (.describe .hundredEach)⟩,
      ⟨.migrated, 2, 1, some (.describe .hundredEach)⟩]
    let after := (World.begin hundredStore [toTenEach, toTenEach]).run racing
    after.tasks.map (fun task => task.2.result?) = results.map (fun result => some (.ok result)) ∧
      Repeated .hundredEach .tenEach (results.countP fun result => result.status = .migrated) hundredStore
        after.shared.store := by
  intro results after
  have rivals : ∀ migration ∈ [toTenEach, toTenEach], Rival .hundredEach .tenEach migration := by
    have rival : Rival .hundredEach .tenEach toTenEach := ⟨rfl, rfl, trivial⟩
    simpa using rival
  have differs : Descriptor.describe .hundredEach ≠ .describe .tenEach := by decide +kernel
  have returned : after.tasks.map (fun task => task.2.result?) = results.map fun result => some (.ok result) := rfl
  exact ⟨returned, rivals_repeat (List.cons_ne_nil _ _) rivals rfl differs returned⟩

/-- Levels can be lost though both migrations return: 500 XP are level 6 at first, are rewritten to 50 XP and, by the
one that waited for the scope, to none. -/
theorem rivals_lose_levels :
    let after := (World.begin hundredStore [toTenEach, toTenEach]).run racing
    after.tasks.map (fun task => task.2.result?) = [
        some (.ok ⟨.migrated, 2, 2, some (.describe .hundredEach)⟩),
        some (.ok ⟨.migrated, 2, 1, some (.describe .hundredEach)⟩)] ∧
      after.shared.store.readDescriptor = .ok (some (.describe .tenEach)) ∧
      ¬ KeepsLevels .hundredEach .tenEach hundredStore after.shared.store := by
  refine ⟨rfl, rfl, fun kept => ?_⟩
  obtain ⟨now, found, same⟩ := kept "ann" 500 rfl
  have lost : now = 0 := (Option.some.inj found).symm
  subst lost
  revert same
  decide

end Migration

end Progression
