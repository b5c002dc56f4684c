import Progression.Proofs.Alone
import Progression.Proofs.Rerun
import Progression.Proofs.TableFile
import Progression.Session

/-!
Restarts. A store outlives the sessions that are opened on it one after another, each with a formula of its own.
Between two of them no level is lost: the descriptor in the store is always that of the formula that made its XP,
so that the next session finds that formula again.
-/

namespace Progression

variable {L : Type}

namespace Session

variable {settings : Settings} {formula : Formula} {directory : Directory} {store : Store}

theorem enabled_of_paceOf {pace : Pace} (success : paceOf settings = .ok pace) :
    pace.enabled = settings.formula.migrateXp := by
  rw [paceOf, Pace.make?] at success
  split at success
  · cases success
    rfl
  · cases success

theorem configure_ok {configureLogging : Bool} {after : Directory} {ranks : RankBook}
    (success : configure settings configureLogging directory = (.ok (formula, ranks), after)) :
    settings.formula.build directory = (.ok formula, after) := by
  rw [configure] at success
  split at success
  · cases success
  · obtain ⟨built, ranked⟩ := Prod.mk.inj success
    obtain ⟨made, making, rest⟩ := bind_eq_ok.1 built
    obtain ⟨listed, -, rest⟩ := bind_eq_ok.1 rest
    cases rest
    exact Prod.ext (mapError_eq_ok.1 making) ranked

theorem migrate_ended {mishaps : Migration.Mishaps} {outcome : Except Fault Migration.Result} {after : Store}
    (migrated : migrate settings formula directory store mishaps = (outcome, after)) :
    (∃ fault, outcome = .error fault ∧ after = store) ∨
      ∃ pace result, pace.enabled = settings.formula.migrateXp ∧ outcome = result.mapError .migration ∧
        Migration.Ended ⟨formula, directory, pace, none⟩ mishaps store result after := by
  rw [migrate] at migrated
  split at migrated
  · cases migrated
    exact .inl ⟨_, rfl, rfl⟩
  · rename_i pace paced
    cases migrated
    exact .inr ⟨pace, _, enabled_of_paceOf paced, rfl, Migration.run_ended _ _ _⟩

end Session

/-- A session on a store: how it is opened, and what goes on until it is closed. -/
structure Visit (L : Type) where
  settings : Settings
  configureLogging : Bool := false
  /-- Whether the session opens the database by itself. -/
  owned : Bool := false
  /-- The directory as the session finds it. -/
  directory : Directory
  mishaps : Migration.Mishaps := fun _ => none
  react : List (Delivery L) → L → Notice → Reaction L := fun _ _ _ => .finish
  channels : Channels L := {}
  calls : List Call := []
  schedule : List (Nat × Outage) := []

/-- A session that was opened, and the store as it was then. -/
structure Stay (L : Type) where
  visit : Visit L
  session : Session
  opened : Store

namespace Stay

variable (stay : Stay L)

def service : Service L := ⟨stay.session.formula, stay.session.ranks, stay.visit.react⟩

/-- The service before any call. -/
def start : Service.State L := { store := stay.opened, channels := stay.visit.channels }

variable [DecidableEq L]

/-- The service and its calls after a number of turns. -/
def after (turns : Nat) : Service.World L :=
  (Service.World.begin stay.start stay.visit.calls).run stay.service (stay.visit.schedule.take turns)

/-- The service and its calls at the end. -/
def ended : Service.World L := stay.after stay.visit.schedule.length

/-- Whether no call is left when the session is closed. -/
def Over : Prop := ∀ task ∈ stay.ended.tasks, task.outcome? ≠ none

/-- What the service answers to a query. -/
def answer? (state : Service.State L) (identity : Identity) (query : Query) : Option Outcome :=
  (stay.service.perform {} 3 state ⟨identity, .ask query⟩).2

end Stay

namespace Visit

variable (visit : Visit L)

/-- Where the session has a store from. A store in memory is always lent. -/
def source (store : Store) : StoreSource :=
  match store.kind with
  | .memory => .lent store
  | .durable => if visit.owned then .database (.ok store) else .lent store.reopen

def opening (store : Store) : Session.Opening :=
  Session.openWith visit.settings visit.configureLogging (visit.source store) visit.directory visit.mishaps

/-- The directory after the session was opened. -/
def files : Directory := (Session.configure visit.settings visit.configureLogging visit.directory).2

/-- The session, if it can be opened. -/
def stay? (store : Store) : Option (Stay L) :=
  match visit.opening store with
  | ⟨.ok session, some opened, _⟩ => some ⟨visit, session, opened⟩
  | _ => none

end Visit

/-- A store after some sessions, and the last one of them that could be opened. -/
structure Lineage (L : Type) where
  store : Store
  last : Option (Stay L) := none

namespace Lineage

variable [DecidableEq L]

/-- One more session, from its opening to its end. -/
def next (lineage : Lineage L) (visit : Visit L) : Lineage L :=
  match visit.stay? lineage.store with
  | some stay => ⟨(stay.session.close stay.ended.state.store).2, some stay⟩
  | none => ⟨(visit.opening lineage.store).store.getD lineage.store, lineage.last⟩

/-- Sessions one after another. -/
def run (lineage : Lineage L) (visits : List (Visit L)) : Lineage L := visits.foldl Lineage.next lineage

end Lineage

namespace Visit

variable {visit : Visit L} {store : Store} {stay : Stay L}

theorem acquire_source : (visit.source store).acquire = .ok store.reopen := by
  rw [source]
  split
  · rename_i memory
    rw [StoreSource.acquire, Store.reopen, memory]
  · split <;> rfl

theorem durable_of_owned (owned : (visit.source store).isOwned = true) : store.kind = .durable := by
  rw [source] at owned
  split at owned
  · cases owned
  · assumption

/-- What an opened session stands on: the formula of its settings, and a store that was migrated to it. -/
structure Begins (visit : Visit L) (store : Store) (stay : Stay L) : Prop where
  same : stay.visit = visit
  isOpen : stay.session.closed = false
  owned : stay.session.ownsStore = (visit.source store).isOwned
  built : visit.settings.formula.build visit.directory = (.ok stay.session.formula, visit.files)
  migrated : ∃ pace, pace.enabled = visit.settings.formula.migrateXp ∧
    Migration.Ended ⟨stay.session.formula, visit.files, pace, none⟩ visit.mishaps store.reopen
      (.ok stay.session.migration) stay.opened

/-- How the opening of a session ends. -/
inductive Opened (visit : Visit L) (store : Store) : Session.Opening → Prop where
  /-- The settings are refused before there is a store. -/
  | refused {fault : Session.Fault} : Opened visit store ⟨.error fault, none, visit.files⟩
  /-- The store is not migrated. -/
  | failed {fault : Session.Fault} {after : Store}
    (unmigrated : after = store.reopen ∨ ∃ (migration : Migration) (failure : Migration.Fault),
      Migration.Ended migration visit.mishaps store.reopen (.error failure) after) :
    Opened visit store ⟨.error fault, some ((visit.source store).release after), visit.files⟩
  | begun {session : Session} {opened : Store} (begins : visit.Begins store ⟨visit, session, opened⟩) :
    Opened visit store ⟨.ok session, some opened, visit.files⟩

theorem opened_opening : visit.Opened store (visit.opening store) := by
  rw [opening, Session.openWith, acquire_source]
  split
  · rename_i fault after configured
    have files : visit.files = after := congrArg Prod.snd configured
    exact files ▸ .refused
  · rename_i formula ranks after configured
    have files : visit.files = after := congrArg Prod.snd configured
    subst files
    dsimp only
    cases migrated : Session.migrate visit.settings formula visit.files store.reopen visit.mishaps with
    | mk outcome after =>
      rcases Session.migrate_ended migrated with ⟨fault, rfl, rfl⟩ | ⟨pace, result, enabled, rfl, ended⟩
      · exact .failed (.inl rfl)
      · cases result with
        | error failure => exact .failed (.inr ⟨_, failure, ended⟩)
        | ok migration => exact .begun ⟨rfl, rfl, rfl, Session.configure_ok configured, pace, enabled, ended⟩

theorem begins_of_stay? (opens : visit.stay? store = some stay) : visit.Begins store stay := by
  have opened : visit.Opened store (visit.opening store) := opened_opening
  rw [stay?] at opens
  generalize visit.opening store = opening at opened opens
  cases opened with
  | refused | failed => cases opens
  | begun begins =>
    cases opens
    exact begins

/-- A session that cannot be opened leaves the store as it was, though it may have closed it, unless the one write
fails that comes after the rewriting of rows. -/
theorem store_of_unopened (unopened : visit.stay? store = none) (recorded : visit.mishaps .record = none) :
    (visit.opening store).store = none ∨
      (visit.opening store).store = some ((visit.source store).release store.reopen) := by
  have opened : visit.Opened store (visit.opening store) := opened_opening
  rw [stay?] at unopened
  generalize visit.opening store = opening at opened unopened
  cases opened with
  | refused => exact .inl rfl
  | begun => cases unopened
  | failed unmigrated =>
    refine .inr (congrArg (fun after => some ((visit.source store).release after)) ?_)
    rcases unmigrated with same | ⟨migration, failure, ended⟩
    · exact same
    · cases ended with
      | unread | unadopted | refused => rfl
      | unrecorded _ _ mishap => cases recorded.symm.trans mishap

@[simp] theorem release_rows {after : Store} : ((visit.source store).release after).rows = after.rows := by
  rw [StoreSource.release]
  split <;> rfl

@[simp] theorem release_metadata {after : Store} :
    ((visit.source store).release after).metadata = after.metadata := by
  rw [StoreSource.release]
  split <;> rfl

theorem kind_opened (begins : visit.Begins store stay) : stay.opened.kind = store.kind := by
  obtain ⟨pace, -, ended⟩ := begins.migrated
  generalize Except.ok stay.session.migration = result at ended
  generalize stay.opened = after at ended
  refine Eq.trans ?_ Store.reopen_kind
  cases ended <;> rfl

theorem close_session (begins : visit.Begins store stay) (after : Store) :
    (stay.session.close after).2 = (visit.source store).release after := by
  rw [Session.close, begins.isOpen, begins.owned]
  rfl

/-- What a session reads from a store that the one before has closed if it had opened it. -/
theorem readDescriptor_release {after : Store} {found : Option Descriptor} (kind : after.kind = store.kind)
    (read : after.readDescriptor = .ok found) :
    ((visit.source store).release after).reopen.readDescriptor = .ok found := by
  obtain ⟨ready, entries⟩ := Store.readDescriptor_eq_ok.1 read
  rw [StoreSource.release]
  split
  · rename_i owned
    have durable : after.close.kind = .durable := kind.trans (durable_of_owned owned)
    exact Store.readDescriptor_eq_ok.2 ⟨Store.ready_reopen_of_durable durable, Store.reopen_metadata.symm ▸ entries⟩
  · exact Store.readDescriptor_eq_ok.2 ⟨Store.Ready.reopen ready, Store.reopen_metadata.symm ▸ entries⟩

end Visit

namespace Stay

variable [DecidableEq L] {stay : Stay L}

theorem store_after (turns : Nat) : ∃ rows, (stay.after turns).state.store = { stay.opened with rows } :=
  Service.World.store_run _ _

theorem readDescriptor_after (turns : Nat)
    (described : stay.opened.readDescriptor = .ok (some stay.session.descriptor)) :
    (stay.after turns).state.store.readDescriptor = .ok (some stay.session.descriptor) := by
  obtain ⟨rows, same⟩ := stay.store_after turns
  rw [same]
  exact Store.readDescriptor_eq_ok.2 (Store.readDescriptor_eq_ok.1 described)

theorem answer?_eq {state : Service.State L} {identity : Identity} {xp : Int} (settled : state.Settled)
    (ready : state.store.Ready) (row : state.store.rows.get? identity = some xp) (query : Query) :
    stay.answer? state identity query = some (.ok (query.answer stay.session.formula stay.session.ranks xp)) := by
  have stored : state.stored identity = xp := by rw [Service.State.stored, row, Option.getD_some]
  rw [answer?, Service.perform_ask (settled.free ▸ List.not_mem_nil) (settled.agrees identity) ready, stored]
  rfl

omit [DecidableEq L] in
theorem settled_start : stay.start.Settled := ⟨rfl, fun _ _ known => nomatch known⟩

theorem settled_ended (quiet : stay.Over) : stay.ended.state.Settled := by
  have consistent : Service.Consistent stay.service stay.ended :=
    (settled_start.consistent stay.visit.calls).run _
  have free : ∀ identity, identity ∉ stay.ended.state.locked := fun identity => consistent.free quiet
  exact ⟨List.eq_nil_iff_forall_not_mem.2 free, fun identity xp => consistent.agrees identity (free identity) xp⟩

end Stay

namespace Lineage

variable [DecidableEq L] {lineage : Lineage L} {visits : List (Visit L)} {visit : Visit L} {last stay : Stay L}

/-- What holds of a store after sessions: it has the rows and the descriptor of the last one that could be opened,
and no descriptor if there is none. -/
structure Sound (visits : List (Visit L)) (lineage : Lineage L) : Prop where
  described : lineage.store.reopen.readDescriptor = .ok (lineage.last.map fun stay => stay.session.descriptor)
  rows : ∀ stay, lineage.last = some stay → lineage.store.rows = stay.ended.state.store.rows
  ready : ∀ stay, lineage.last = some stay → stay.ended.state.store.Ready
  made : ∀ stay, lineage.last = some stay → stay.visit ∈ visits ∧
    stay.session.formula.ReadFrom stay.visit.settings.formula.table.file stay.visit.files

/-- Opening a session loses and makes no row; each row has the level that it had at the end of the last session, and
the same XP if the descriptors are one. -/
structure Survives (lineage : Lineage L) (last stay : Stay L) : Prop where
  identities : stay.opened.rows.keys = lineage.store.rows.keys
  levels : Migration.KeepsLevels last.session.formula stay.session.formula lineage.store stay.opened
  xp : last.session.descriptor = stay.session.descriptor → stay.opened.rows = lineage.store.rows

omit [DecidableEq L] in
theorem described_of_begins (begins : visit.Begins lineage.store stay)
    (wanted : visit.settings.formula.migrateXp = true) :
    stay.opened.readDescriptor = .ok (some stay.session.descriptor) := by
  obtain ⟨pace, enabled, ended⟩ := begins.migrated
  generalize outcome : Except.ok stay.session.migration = result at ended
  generalize opened : stay.opened = after at ended
  cases ended with
  | disabled unwanted => cases (wanted.symm.trans enabled.symm).trans unwanted
  | unchanged same => exact same
  | adopted absent => exact Migration.readDescriptor_recorded (Store.readDescriptor_eq_ok.1 absent).1
  | migrated due preserved => exact (Migration.carried_of_preserved due preserved).descriptor
  | unread | unadopted | refused | unrecorded => cases outcome

/-- The step lemma: opening one more session keeps levels. -/
theorem Sound.survives (sound : Sound visits lineage) (opened : lineage.last = some last)
    (begins : visit.Begins lineage.store stay) (wanted : visit.settings.formula.migrateXp = true)
    (kept : Directory.Keeps last.visit.settings.formula.table.file last.visit.files visit.files) :
    Survives lineage last stay := by
  have stored : lineage.store.reopen.readDescriptor = .ok (some last.session.descriptor) := by
    rw [sound.described, opened]
    rfl
  have made := (sound.made last opened).2
  obtain ⟨pace, enabled, ended⟩ := begins.migrated
  rcases ended.returned (enabled.trans wanted) stored with ⟨same, untouched⟩ | ⟨old, due, carried⟩
  · -- One descriptor stands for one formula.
    have rows : stay.opened.rows = lineage.store.rows := by rw [untouched, Store.reopen_rows]
    have alike : last.session.formula.Alike stay.session.formula :=
      Formula.alike_of_keeps kept made (Formula.readFrom_of_build begins.built) same
    refine ⟨congrArg Entries.keys rows, fun identity xp found => ⟨xp, ?_, (alike.levelForXp xp).symm⟩, fun _ => rows⟩
    rw [rows]
    exact found
  · -- The formula that was rebuilt is that of the last session, as far as levels can tell.
    have alike : last.session.formula.Alike old :=
      Formula.alike_of_rebuild (Formula.foundIn_of_keeps kept made) due.rebuilt
    refine ⟨carried.identities.trans (congrArg Entries.keys Store.reopen_rows), fun identity xp found => ?_,
      fun same => absurd same due.differs⟩
    rw [alike.levelForXp xp]
    exact carried.levels identity xp (Store.reopen_rows.symm ▸ found)

/-- The step lemma: a store is sound after one more session. -/
theorem Sound.next (sound : Sound visits lineage) (wanted : visit.settings.formula.migrateXp = true)
    (recorded : visit.mishaps .record = none) : Sound (visits ++ [visit]) (lineage.next visit) := by
  rw [Lineage.next]
  cases opens : visit.stay? lineage.store with
  | none =>
    have made (stay : Stay L) (opened : lineage.last = some stay) :=
      (sound.made stay opened).imp_left (List.mem_append_left [visit])
    dsimp only
    rcases Visit.store_of_unopened opens recorded with same | same <;> rw [same]
    · exact ⟨sound.described, sound.rows, sound.ready, made⟩
    · refine ⟨Visit.readDescriptor_release Store.reopen_kind sound.described, fun stay opened => ?_, sound.ready, made⟩
      exact (Visit.release_rows.trans Store.reopen_rows).trans (sound.rows stay opened)
  | some stay =>
    have begins := Visit.begins_of_stay? opens
    have described : stay.ended.state.store.readDescriptor = .ok (some stay.session.descriptor) :=
      stay.readDescriptor_after _ (described_of_begins begins wanted)
    obtain ⟨rows, same⟩ := stay.store_after stay.visit.schedule.length
    have kind : stay.ended.state.store.kind = lineage.store.kind :=
      (congrArg Store.kind same).trans (Visit.kind_opened begins)
    dsimp only
    rw [Visit.close_session begins]
    refine ⟨Visit.readDescriptor_release kind described, fun other equal => ?_, fun other equal => ?_,
      fun other equal => ?_⟩ <;> cases equal
    · exact Visit.release_rows
    · exact (Store.readDescriptor_eq_ok.1 described).1
    · rw [begins.same]
      exact ⟨by simp, Formula.readFrom_of_build begins.built⟩

/-- The run lemma: a store that was empty is sound after sessions. -/
theorem sound_run (kind : StoreKind) (visits : List (Visit L))
    (wanted : ∀ visit ∈ visits, visit.settings.formula.migrateXp = true)
    (recorded : ∀ visit ∈ visits, visit.mishaps .record = none) :
    Sound visits (Lineage.run ⟨{ kind }, none⟩ visits) := by
  induction visits using List.reverseRecOn with
  | nil =>
    refine ⟨Store.readDescriptor_eq_ok.2 ⟨Store.Ready.reopen ⟨rfl, rfl⟩, ?_⟩, fun _ => nofun, fun _ => nofun,
      fun _ => nofun⟩
    rw [Lineage.run, List.foldl_nil, Store.reopen_metadata]
    rfl
  | append_singleton visits visit ih =>
    rw [Lineage.run, List.foldl_append]
    exact (ih (fun other member => wanted other (List.mem_append_left _ member))
      fun other member => recorded other (List.mem_append_left _ member)).next (wanted visit (by simp))
      (recorded visit (by simp))

/-- Levels survive restarts. Sessions follow one another on a store that was empty, with migrations wanted, each by
its own settings and with its own calls; the new descriptor can be written, and nobody edits the file of a table. If
the next session cannot be opened, no row and no entry of the store is another one. If it can, the store has its
descriptor as long as it lasts, and each identity with a row has at first the level that it had at the end of the
last session that was opened, and the same XP if the descriptors are one. No row is lost or made. -/
theorem levels_survive_restarts (kind : StoreKind) (earlier : List (Visit L)) (visit : Visit L)
    (wanted : ∀ each ∈ earlier ++ [visit], each.settings.formula.migrateXp = true)
    (recorded : ∀ each ∈ earlier ++ [visit], each.mishaps .record = none)
    (kept : (earlier ++ [visit]).Pairwise fun first second =>
      Directory.Keeps first.settings.formula.table.file first.files second.files) :
    let before := Lineage.run ⟨{ kind }, none⟩ earlier
    (visit.stay? before.store = none → (before.next visit).store.rows = before.store.rows ∧
      (before.next visit).store.metadata = before.store.metadata) ∧
    ∀ stay, visit.stay? before.store = some stay →
      (∀ turns, (stay.after turns).state.store.readDescriptor = .ok (some stay.session.descriptor)) ∧
      ∀ last, before.last = some last → last.Over → stay.opened.rows.keys = last.ended.state.store.rows.keys ∧
        ∀ identity ∈ stay.opened.rows.keys,
        (∃ level, last.answer? last.ended.state identity .level = some (.ok (.number level)) ∧
          stay.answer? stay.start identity .level = some (.ok (.number level))) ∧
        (last.session.descriptor = stay.session.descriptor →
          ∃ xp, last.answer? last.ended.state identity .xp = some (.ok (.number xp)) ∧
            stay.answer? stay.start identity .xp = some (.ok (.number xp))) := by
  intro before
  have sound : Sound earlier before := sound_run kind earlier
    (fun each member => wanted each (List.mem_append_left _ member))
    fun each member => recorded each (List.mem_append_left _ member)
  have wantedNow := wanted visit (by simp)
  refine ⟨fun unopened => ?_, fun stay opens => ?_⟩
  · rw [next, unopened]
    rcases Visit.store_of_unopened unopened (recorded visit (by simp)) with same | same <;> simp [same]
  have begins := Visit.begins_of_stay? opens
  have described := described_of_begins begins wantedNow
  refine ⟨fun turns => stay.readDescriptor_after turns described, fun last opened quiet => ?_⟩
  obtain ⟨made, -⟩ := sound.made last opened
  have survives := sound.survives opened begins wantedNow
    ((List.pairwise_append.1 kept).2.2 last.visit made visit (by simp))
  refine ⟨survives.identities.trans (congrArg Entries.keys (sound.rows last opened)), fun identity present => ?_⟩
  obtain ⟨xp, found⟩ := Option.isSome_iff_exists.1 (Entries.contains_eq_true_iff.2 (survives.identities ▸ present))
  obtain ⟨now, foundNow, level⟩ := survives.levels identity xp found
  -- Both services tell what their stores have.
  have row : last.ended.state.store.rows.get? identity = some xp := sound.rows last opened ▸ found
  have answers := last.answer?_eq (Stay.settled_ended quiet) (sound.ready last opened) row
  have answersNow := stay.answer?_eq Stay.settled_start (Store.readDescriptor_eq_ok.1 described).1 foundNow
  refine ⟨⟨_, answers .level, level ▸ answersNow .level⟩, fun same => ⟨xp, answers .xp, ?_⟩⟩
  rw [survives.xp same, found] at foundNow
  cases foundNow
  exact answersNow .xp

/-- A session with a number of XP for each level, in a directory without files. -/
def linearVisit (xpPerLevel : Int) (calls : List Call) : Visit Unit where
  settings := { formula := { kind := "LINEAR", linear := { xpPerLevel, maxLevel := 60 } } }
  directory := .empty "data"
  calls
  schedule := List.replicate 6 (0, {})

/-- At 100 XP a level an identity is given 500 XP, which is level 6. -/
def hundredVisit : Visit Unit := linearVisit 100 [⟨"ann", .change (.addXp 500)⟩]

/-- The identity keeps its level at 10 XP a level. -/
theorem levels_survive_restarts_ten_each :
    let before := Lineage.run ⟨{ kind := .durable }, none⟩ [hundredVisit]
    ∃ last stay, before.last = some last ∧ (linearVisit 10 []).stay? before.store = some stay ∧
      stay.opened.rows.pairs = [("ann", 50)] ∧
      last.answer? last.ended.state "ann" .level = some (.ok (.number 6)) ∧
      stay.answer? stay.start "ann" .level = some (.ok (.number 6)) := by
  intro before
  have opened : before.last.isSome := by decide +kernel
  have opens : ((linearVisit 10 []).stay? before.store).isSome := by decide +kernel
  obtain ⟨last, lastOpened⟩ := Option.isSome_iff_exists.1 opened
  obtain ⟨stay, stayOpens⟩ := Option.isSome_iff_exists.1 opens
  have outcomes : (before.last.map fun last => last.ended.tasks.map Task.outcome?)
      = some [some (.ok (.number 500))] := by decide +kernel
  have level : (before.last.map fun last => last.answer? last.ended.state "ann" .level)
      = some (some (.ok (.number 6))) := by decide +kernel
  have rows : (((linearVisit 10 []).stay? before.store).map fun stay => stay.opened.rows.pairs)
      = some [("ann", 50)] := by decide +kernel
  rw [lastOpened, Option.map_some, Option.some.injEq] at outcomes level
  rw [stayOpens, Option.map_some, Option.some.injEq] at rows
  have quiet : last.Over := fun task member => by
    have ended := List.mem_map_of_mem (f := Task.outcome?) member
    rw [outcomes, List.mem_singleton] at ended
    simp [ended]
  have kept : ([hundredVisit] ++ [linearVisit 10 []]).Pairwise fun first second =>
      Directory.Keeps first.settings.formula.table.file first.files second.files := by
    refine List.pairwise_pair.2 fun text later read => ?_
    have absent : hundredVisit.files.read? (.ofText defaultTableName) = none := by decide +kernel
    cases absent.symm.trans read
  obtain ⟨-, survive⟩ := levels_survive_restarts .durable [hundredVisit] (linearVisit 10 [])
    (by simp [hundredVisit, linearVisit]) (by simp [hundredVisit, linearVisit]) kept
  obtain ⟨-, answers⟩ := (survive stay stayOpens).2 last lastOpened quiet
  have present : "ann" ∈ stay.opened.rows.keys := by simp [Entries.keys, rows]
  obtain ⟨⟨same, asked, askedNow⟩, -⟩ := answers "ann" present
  cases level.symm.trans asked
  exact ⟨last, stay, lastOpened, stayOpens, rows, level, askedNow⟩

end Lineage

end Progression
