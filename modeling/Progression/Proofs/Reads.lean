import Progression.Proofs.Announcements

namespace Progression

variable {L : Type}

/-- A load of the XP of an identity, and what it led to. -/
structure Fetch where
  task : Nat
  identity : Identity
  outcome : Except StoreFault Int

/-- The load that a task makes in a step, if it makes one. -/
def Task.fetch? (index : Nat) (task next : Task L) : Option Fetch :=
  match task.phase, next.phase with
  | .loading, .loaded xp => some ⟨index, task.identity, .ok xp⟩
  | .loading, .finished (.error fault) => some ⟨index, task.identity, .error fault⟩
  | _, _ => none

/-- The loads of one identity. -/
def Fetch.about (identity : Identity) (log : List Fetch) : List Fetch :=
  log.filter fun fetch => fetch.identity = identity

namespace Service

/-- The XP that readers are shown by an account. -/
def Account.shown (account : Account) : Int := account.known.getD account.stored

section Moves

variable {service : Service L} {state after : State L} {task next : Task L} {index : Nat} {identity : Identity}

theorem due_eq_nil (unsaved : ∀ old new, task.phase ≠ .saved old new) : task.due identity index = [] := by
  rw [Task.due, announcement?_eq_none unsaved]
  rfl

/-- The step lemma of what readers are shown: it moves with the change that is announced. -/
theorem Moved.shown (moved : Moved service state task after next)
    (standing : Standing service.formula (state.account task.identity) task) :
    (after.account identity).shown = Commit.last (state.account identity).shown (task.due identity index) := by
  by_cases own : identity = task.identity
  · subst own
    cases moved with
    | blocked waits | answered waits | entered waits | resumed waits =>
      rw [due_eq_nil fun old new saved => by simp [saved, Phase.Waits] at waits]
      rfl
    | loaded loads =>
      rw [due_eq_nil (by simp [loads])]
      rfl
    | queried loaded | prepared loaded =>
      simp only [Standing, loaded] at standing
      obtain ⟨-, unknown, rfl⟩ := standing
      have before : (state.account task.identity).shown = (state.account task.identity).stored := by
        rw [Account.shown, unknown, Option.getD_none]
      rw [due_eq_nil (by simp [loaded]), Commit.last, List.foldl_nil, before]
      simp [Account.shown, State.account, unlock, remember, Task.identity]
    | abandoned unsaved =>
      rw [due_eq_nil (by rcases unsaved with loads | ⟨old, new, saves⟩ <;> simp_all)]
      rfl
    | saved saves =>
      simp only [Standing, saves] at standing
      have known : state.cache.get? task.identity = some _ := standing.2.1
      rw [due_eq_nil (by simp [saves])]
      simp [Account.shown, State.account, write, known, Commit.last]
    | @announced old new _ _ _ saved books =>
      simp only [Standing, saved] at standing
      obtain ⟨-, -, -, mutation, changes, -⟩ := standing
      have due : task.due task.identity index
          = [⟨index, task.waiting.length, task.identity, mutation, old, new⟩] := by
        simp [Task.due, Task.announcement?, changes, saved, Commit.about]
      rw [due, books.account]
      simp [Account.shown, State.account, unlock, remember, Commit.last]
    | told tells books | returned tells _ books =>
      rw [due_eq_nil (by simp [tells]), books.account]
      rfl
    | idle ended =>
      rw [due_eq_nil (by simp [ended])]
      rfl
  · have silent : task.due identity index = [] := by
      by_contra due
      exact own (holds_of_due due).2.symm
    rw [silent, moved.frame (.inl own)]
    rfl

theorem fetch?_eq_some {fetch : Fetch} (fetched : task.fetch? index next = some fetch) :
    fetch.task = index ∧ fetch.identity = task.identity ∧ task.phase = .loading ∧
      ∀ xp, fetch.outcome = .ok xp → next.phase = .loaded xp := by
  rw [Task.fetch?] at fetched
  split at fetched
  · rename_i loads loaded
    cases fetched
    exact ⟨rfl, rfl, loads, fun xp same => by rw [loaded, Except.ok.inj same]⟩
  · rename_i loads failed
    cases fetched
    exact ⟨rfl, rfl, loads, fun xp same => nomatch same⟩
  · cases fetched

/-- A step of a call that asks, and has not come to its end, leads on towards its answer; or the call is answered, by
what readers are shown; or the load fails that it makes. -/
theorem Moved.asked (moved : Moved service state task after next) {query : Query}
    (asks : task.call.request = .ask query) (opened : task.phase.Open)
    (standing : Standing service.formula (state.account task.identity) task) (index : Nat) :
    next.phase.Open ∧ next.call = task.call ∧ next.waiting = task.waiting ∨
      (∃ xp, xp = (state.account task.identity).shown ∧
        next = { task with phase := .finished (.ok (query.answer service.formula service.ranks xp)) }) ∨
      ∃ fault, next = { task with phase := .finished (.error fault) } ∧
        task.fetch? index next = some ⟨index, task.identity, .error fault⟩ := by
  have reads (old new : Int) : task.phase ≠ .saving old new := by
    intro saves
    simp only [Standing, saves] at standing
    obtain ⟨-, -, -, mutation, changes, -⟩ := standing
    cases asks.symm.trans changes
  cases moved with
  | blocked | entered | loaded => exact .inl ⟨trivial, rfl, rfl⟩
  | @answered also xp _ asked known =>
    cases asks.symm.trans asked
    have shown : (state.account task.identity).shown = xp := congrArg (Option.getD · _) known
    exact .inr (.inl ⟨xp, shown.symm, rfl⟩)
  | @queried also xp loaded asked =>
    cases asks.symm.trans asked
    simp only [Standing, loaded] at standing
    exact .inr (.inl ⟨xp, by rw [Account.shown, standing.2.1, Option.getD_none, standing.2.2], rfl⟩)
  | @abandoned fault unsaved =>
    have loads : task.phase = .loading := by
      rcases unsaved with loads | ⟨old, new, saves⟩
      · exact loads
      · exact absurd saves (reads old new)
    exact .inr (.inr ⟨fault, rfl, by simp only [Task.fetch?, loads]⟩)
  | resumed _ _ changes | prepared _ changes => cases asks.symm.trans changes
  | saved saves => exact absurd saves (reads _ _)
  | announced earlier | told earlier | returned earlier | idle earlier => simp [earlier, Phase.Open] at opened

theorem Moved.store_of_ask (moved : Moved service state task after next) {query : Query}
    (asks : task.call.request = .ask query)
    (standing : Standing service.formula (state.account task.identity) task) : after.store = state.store := by
  rcases moved.saves with ⟨-, same⟩ | ⟨old, new, saves, -, -⟩
  · exact same
  · simp only [Standing, saves] at standing
    obtain ⟨-, -, -, mutation, changes, -⟩ := standing
    cases asks.symm.trans changes

end Moves

section Logs

variable [DecidableEq L] {service : Service L} {world : World L}

/-- The load that is made when a task takes a step. -/
def World.fetch? (service : Service L) (world : World L) (index : Nat) (outage : Outage) : Option Fetch :=
  world.tasks[index]?.bind fun task =>
    (world.step service index outage).tasks[index]?.bind fun next => task.fetch? index next

/-- The loads that are made along a schedule. -/
def World.fetches (service : Service L) (world : World L) : List (Nat × Outage) → List Fetch
  | [] => []
  | (index, outage) :: rest =>
    (world.fetch? service index outage).toList ++ (world.step service index outage).fetches service rest

/-- Whether the XP of an identity has been loaded: it is known, or a call is about to make it known. -/
def World.Loaded (world : World L) (identity : Identity) : Prop :=
  (world.state.cache.get? identity).isSome ∨
    ∃ (index : Nat) (task : Task L) (xp : Int), world.tasks[index]? = some task ∧ task.identity = identity ∧
      task.phase = .loaded xp

theorem World.fetch?_of_present {index : Nat} {outage : Outage} {task next : Task L} {after : State L}
    (present : world.tasks[index]? = some task)
    (becomes : world.step service index outage = ⟨after, world.tasks.set index next⟩) :
    world.fetch? service index outage = task.fetch? index next := by
  simp [World.fetch?, becomes, present, getElem?_set_of_some present]

section Loads

variable {identity : Identity} {index : Nat} {outage : Outage}

theorem Consistent.unloaded_of_fetch (consistent : Consistent service world) {fetch : Fetch}
    (fetched : world.fetch? service index outage = some fetch) : ¬ world.Loaded fetch.identity := by
  obtain ⟨task, present, fetched⟩ := Option.bind_eq_some_iff.1 fetched
  obtain ⟨next, -, fetched⟩ := Option.bind_eq_some_iff.1 fetched
  obtain ⟨-, own, loads, -⟩ := fetch?_eq_some fetched
  have standing := consistent.standing present
  simp only [Standing, loads] at standing
  rw [own]
  rintro (known | ⟨other, rival, xp, stands, same, loaded⟩)
  · exact absurd standing.2 (Option.isSome_iff_ne_none.1 known)
  · have both : index = other :=
      consistent.alone present stands (by rw [loads]; trivial) (by rw [loaded]; trivial) same.symm
    subst both
    cases present.symm.trans stands
    cases loads.symm.trans loaded

theorem World.loaded_of_fetch {fetch : Fetch} (fetched : world.fetch? service index outage = some fetch) {xp : Int}
    (success : fetch.outcome = .ok xp) : (world.step service index outage).Loaded fetch.identity := by
  obtain ⟨task, present, fetched⟩ := Option.bind_eq_some_iff.1 fetched
  obtain ⟨next, stands, fetched⟩ := Option.bind_eq_some_iff.1 fetched
  obtain ⟨-, own, loads, loaded⟩ := fetch?_eq_some fetched
  obtain ⟨after, other, moved, becomes⟩ := World.step_of_present service outage present
  have same : other = next := by
    rw [becomes, getElem?_set_of_some present, if_pos rfl] at stands
    exact Option.some.inj stands
  subst same
  have phase := loaded xp success
  have holds : other.phase.Holds := by rw [phase]; trivial
  exact .inr ⟨index, other, xp, stands, (moved.of_holds holds).1.trans own.symm, phase⟩

/-- The step lemma: what has been loaded stays so. -/
theorem World.Loaded.step (loaded : world.Loaded identity) (index : Nat) (outage : Outage) :
    (world.step service index outage).Loaded identity := by
  cases present : world.tasks[index]? with
  | none => rwa [World.step_of_absent present]
  | some task =>
  obtain ⟨after, next, moved, becomes⟩ := World.step_of_present service outage present
  rcases loaded with known | ⟨other, rival, xp, stands, same, phase⟩
  · rw [becomes]
    exact .inl (moved.known known)
  · by_cases own : other = index
    · subst own
      cases present.symm.trans stands
      subst same
      rw [becomes]
      cases moved with
      | queried | prepared => exact .inl (by simp [remember, unlock, Task.identity])
      | blocked waits | answered waits | entered waits | resumed waits => simp [phase, Phase.Waits] at waits
      | loaded earlier | saved earlier | announced earlier | told earlier | returned earlier | idle earlier =>
        simp [phase] at earlier
      | abandoned unsaved => simp [phase] at unsaved
    · exact .inr ⟨other, rival, xp, (World.step_of_other own).trans stands, same, phase⟩

/-- The run lemma: what has been loaded is never loaded again. -/
theorem Consistent.fetches_of_loaded (consistent : Consistent service world) (loaded : world.Loaded identity)
    (schedule : List (Nat × Outage)) : Fetch.about identity (world.fetches service schedule) = [] := by
  induction schedule generalizing world with
  | nil => rfl
  | cons turn rest ih =>
    refine List.filter_eq_nil_iff.2 fun fetch member own => ?_
    have same : fetch.identity = identity := of_decide_eq_true own
    rcases List.mem_append.1 member with now | later
    · exact consistent.unloaded_of_fetch (Option.mem_toList.1 now) (same ▸ loaded)
    · exact List.filter_eq_nil_iff.1 (ih (consistent.step turn.1 turn.2) (loaded.step turn.1 turn.2)) fetch later own

theorem Consistent.fetches_fail (consistent : Consistent service world) (identity : Identity)
    (schedule : List (Nat × Outage)) :
    (Fetch.about identity (world.fetches service schedule)).Pairwise fun earlier _ =>
      ∃ fault, earlier.outcome = .error fault := by
  induction schedule generalizing world with
  | nil => exact .nil
  | cons turn rest ih =>
    have later := ih (consistent.step turn.1 turn.2)
    rw [World.fetches, Fetch.about, List.filter_append, ← Fetch.about, ← Fetch.about]
    cases fetched : world.fetch? service turn.1 turn.2 with
    | none => exact later
    | some fetch =>
      by_cases own : fetch.identity = identity
      · have only : Fetch.about identity (some fetch).toList = [fetch] := by simp [Fetch.about, own]
        rw [only, List.singleton_append, List.pairwise_cons]
        refine ⟨fun other member => ?_, later⟩
        cases outcome : fetch.outcome with
        | error fault => exact ⟨fault, rfl⟩
        | ok xp =>
          have loaded := World.loaded_of_fetch fetched outcome
          rw [(consistent.step turn.1 turn.2).fetches_of_loaded (own ▸ loaded) rest] at member
          cases member
      · have none : Fetch.about identity (some fetch).toList = [] := by simp [Fetch.about, own]
        rw [none]
        exact later

end Loads

section Readers

variable {identity : Identity} {index : Nat} {task : Task L}

theorem Consistent.shown_step (consistent : Consistent service world) (index : Nat) (outage : Outage) :
    ((world.step service index outage).state.account identity).shown
      = Commit.last (world.state.account identity).shown
          (Commit.about identity (world.announcement? index).toList) := by
  rw [World.announcement?]
  cases present : world.tasks[index]? with
  | none =>
    rw [World.step_of_absent present]
    rfl
  | some task =>
    obtain ⟨after, next, moved, becomes⟩ := World.step_of_present service outage present
    rw [becomes]
    exact moved.shown (consistent.standing present)

/-- The run lemma: readers are shown the XP that the last change led to that was announced. -/
theorem Consistent.shown_run (consistent : Consistent service world) (schedule : List (Nat × Outage)) :
    ((world.run service schedule).state.account identity).shown
      = Commit.last (world.state.account identity).shown
          (Commit.about identity (world.announcements service schedule)) := by
  induction schedule generalizing world with
  | nil => rfl
  | cons turn rest ih =>
    rw [World.run_cons, ih (consistent.step turn.1 turn.2), consistent.shown_step, World.announcements,
      Commit.about_append]
    exact List.foldl_append.symm

theorem World.fate_of_ended {depth : Nat} {outcome : Outcome} (present : world.tasks[index]? = some task)
    (ended : task.ended? depth = some outcome) (schedule : List (Nat × Outage)) :
    world.fate service index depth schedule = some outcome := by
  cases schedule with
  | nil => rw [fate, present, Option.bind_some, ended]
  | cons turn rest => rw [fate, present, Option.bind_some, ended, Option.some_or]

theorem World.fate_cons {depth : Nat} (present : world.tasks[index]? = some task) (going : task.ended? depth = none)
    (turn : Nat × Outage) (rest : List (Nat × Outage)) :
    world.fate service index depth (turn :: rest)
      = (world.step service turn.1 turn.2).fate service index depth rest := by
  rw [fate, present, Option.bind_some, going, Option.none_or]

omit [DecidableEq L] in
theorem ended?_of_open {depth : Nat} (opened : task.phase.Open) : task.ended? depth = none := by
  rw [Task.ended?]
  split
  · rename_i finished
    rw [finished] at opened
    exact opened.elim
  · rfl

/-- The run lemma of a call that asks: if it comes to its end, it answers by what readers are shown at some point, or a
load failed that it made. -/
theorem Consistent.fate_of_ask (consistent : Consistent service world) (present : world.tasks[index]? = some task)
    {query : Query} (asks : task.call.request = .ask query) (opened : task.phase.Open)
    {rest : List (Nat × Outage)} {outcome : Outcome}
    (ended : world.fate service index task.waiting.length rest = some outcome) :
    (∃ part, part <+: rest ∧ outcome = .ok (query.answer service.formula service.ranks
      ((world.run service part).state.account task.identity).shown)) ∨
      ∃ fault, outcome = .error fault ∧ ⟨index, task.identity, .error fault⟩ ∈ world.fetches service rest := by
  induction rest generalizing world task with
  | nil =>
    rw [World.fate, present, Option.bind_some, ended?_of_open opened] at ended
    cases ended
  | cons turn rest ih =>
    rw [World.fate_cons present (ended?_of_open opened)] at ended
    by_cases own : index = turn.1
    · subst own
      obtain ⟨after, next, moved, becomes⟩ := World.step_of_present service turn.2 present
      have stands : (world.step service turn.1 turn.2).tasks[turn.1]? = some next := by
        rw [becomes, getElem?_set_of_some present, if_pos rfl]
      rcases moved.asked asks opened (consistent.standing present) turn.1 with
        ⟨opened, call, waiting⟩ | ⟨xp, shown, rfl⟩ | ⟨fault, rfl, fetched⟩
      · have same : next.identity = task.identity := by rw [Task.identity, Task.identity, call]
        rw [← waiting] at ended
        rcases ih (consistent.step turn.1 turn.2) stands (call ▸ asks) opened ended with
          ⟨part, inside, answered⟩ | ⟨fault, failed, member⟩
        · exact .inl ⟨turn :: part, (List.prefix_cons_inj turn).2 inside, same ▸ answered⟩
        · exact .inr ⟨fault, failed, List.mem_append_right _ (same ▸ member)⟩
      · rw [World.fate_of_ended stands (if_pos rfl)] at ended
        refine .inl ⟨[], List.nil_prefix, ?_⟩
        rw [← Option.some.inj ended, shown]
        rfl
      · rw [World.fate_of_ended stands (if_pos rfl)] at ended
        refine .inr ⟨fault, (Option.some.inj ended).symm, List.mem_append_left _ ?_⟩
        rw [World.fetch?_of_present present becomes, fetched]
        exact List.mem_singleton_self _
    · have stands : (world.step service turn.1 turn.2).tasks[index]? = some task :=
        (World.step_of_other own).trans present
      rcases ih (consistent.step turn.1 turn.2) stands asks opened ended with
        ⟨part, inside, answered⟩ | ⟨fault, failed, member⟩
      · exact .inl ⟨turn :: part, (List.prefix_cons_inj turn).2 inside, answered⟩
      · exact .inr ⟨fault, failed, List.mem_append_right _ member⟩

end Readers

section Completed

variable {identity : Identity}

/-- Whether a change was saved right after those of a log, and the call that saved it has come to its end. -/
def World.Completed (service : Service L) (world : World L) (schedule : List (Nat × Outage)) (log : List Commit)
    (commit : Commit) : Prop :=
  ∃ before turn after, schedule = before ++ turn :: after ∧ world.commits service before = log ∧
    (world.run service before).commit? service turn.1 turn.2 = some commit ∧
    ((world.run service before).step service turn.1 turn.2).fate service commit.task commit.depth after ≠ none

theorem World.announcement?_step {index : Nat} {outage : Outage} :
    (world.step service index outage).announcement? index = world.commit? service index outage := by
  cases present : world.tasks[index]? with
  | none => rw [World.step_of_absent present, World.announcement?, World.commit?, present]; rfl
  | some task =>
    obtain ⟨after, next, moved, becomes⟩ := World.step_of_present service outage present
    rw [World.commit?_of_present present becomes, becomes, World.announcement?, getElem?_set_of_some present,
      if_pos rfl, Option.bind_some]
    exact moved.announcement?_eq

theorem World.announced_of_fate {index : Nat} {task : Task L} {commit : Commit}
    (present : world.tasks[index]? = some task) (saved : task.announcement? index = some commit)
    (schedule : List (Nat × Outage)) (ended : world.fate service index commit.depth schedule ≠ none) :
    commit ∈ world.announcements service schedule := by
  have going : task.ended? commit.depth = none := by
    rw [Task.ended?, (announcement?_eq_some saved).2.2.2]
  induction schedule generalizing world with
  | nil =>
    rw [World.fate, present, Option.bind_some, going] at ended
    exact absurd rfl ended
  | cons turn rest ih =>
    by_cases own : index = turn.1
    · subst own
      refine List.mem_append_left _ ?_
      rw [World.announcement?, present, Option.bind_some, saved]
      exact List.mem_singleton_self commit
    · rw [World.fate_cons present going] at ended
      exact List.mem_append_right _ (ih ((World.step_of_other own).trans present) ended)

theorem Consistent.announced_of_completed (consistent : Consistent service world)
    (unannounced : world.Unannounced identity []) {schedule : List (Nat × Outage)} {log : List Commit} {commit : Commit}
    (completed : world.Completed service schedule log commit) (own : commit.identity = identity) :
    Commit.about identity (log ++ [commit]) <+: Commit.about identity (world.announcements service schedule) := by
  obtain ⟨before, turn, after, rfl, rfl, saved, ended⟩ := completed
  let later := (world.run service before).step service turn.1 turn.2
  have reached : world.run service (before ++ [turn]) = later := World.run_append
  have still : Consistent service later := (consistent.run before).step turn.1 turn.2
  have due : Commit.about identity (later.announcement? turn.1).toList = [commit] := by
    rw [World.announcement?_step, saved]
    simp [Commit.about, own]
  -- The change is all that is to be announced when it has been saved.
  obtain ⟨left, waits, before_saved⟩ := consistent.announced_run unannounced (before ++ [turn])
  rw [reached] at waits
  have single : left = [commit] := by
    rcases waits.announces turn.1 with nothing | all
    · cases due.symm.trans nothing
    · exact all.symm.trans due
  subst single
  have commits : world.commits service (before ++ [turn]) = world.commits service before ++ [commit] := by
    rw [World.commits_append, World.commits, World.commits, saved]
    rfl
  rw [List.nil_append, commits] at before_saved
  obtain ⟨more, -, after_saved⟩ := still.announced_run waits after
  have announced : commit ∈ Commit.about identity (later.announcements service after) := by
    obtain ⟨next, stands, announces⟩ := Option.bind_eq_some_iff.1 (World.announcement?_step.trans saved)
    rw [(announcement?_eq_some announces).1] at ended
    exact Commit.mem_about.2 ⟨World.announced_of_fate stands announces after ended, own⟩
  have whole : world.announcements service (before ++ turn :: after)
      = world.announcements service (before ++ [turn]) ++ later.announcements service after := by
    rw [← reached, ← World.announcements_append, List.append_assoc]
    rfl
  rw [before_saved, whole, Commit.about_append, List.prefix_append_right_inj]
  cases told : Commit.about identity (later.announcements service after) with
  | nil =>
    rw [told] at announced
    cases announced
  | cons first rest =>
    rw [told] at after_saved
    rw [(List.cons.inj after_saved).1]
    exact ⟨rest, rfl⟩

end Completed

section Main

variable {start : State L} {calls : List Call} {identity : Identity}

/-- What readers are shown at any point is the XP that some of the changes led to that are saved by then: at least those
up to any one that a call had saved which came to its end before. -/
theorem shown_fresh (service : Service L) (store : Store) (channels : Channels L) (calls : List Call)
    (schedule part more : List (Nat × Outage)) (identity : Identity) :
    let first := World.begin { store, channels } calls
    ∃ earlier, earlier <+: Commit.about identity (first.commits service (schedule ++ (part ++ more))) ∧
      (((first.run service schedule).run service part).state.account identity).shown
        = Commit.last ((store.rows.get? identity).getD 0) earlier ∧
      ∀ log commit, first.Completed service schedule log commit → commit.identity = identity →
        Commit.about identity (log ++ [commit]) <+: earlier := by
  intro first
  have settled : ({ store, channels } : State L).Settled := ⟨rfl, fun _ _ known => nomatch known⟩
  have consistent : Consistent service first := settled.consistent calls
  refine ⟨Commit.about identity (first.announcements service (schedule ++ part)), ?_, ?_,
    fun log commit completed same => ?_⟩
  · obtain ⟨left, -, saved⟩ : ∃ left, (first.run service (schedule ++ part)).Unannounced identity left ∧
        Commit.about identity (first.commits service (schedule ++ part))
          = Commit.about identity (first.announcements service (schedule ++ part)) ++ left :=
      consistent.announced_run World.unannounced_begin (schedule ++ part)
    rw [← List.append_assoc, World.commits_append, Commit.about_append, saved, List.append_assoc]
    exact List.prefix_append ..
  · rw [← World.run_append, consistent.shown_run]
    rfl
  · have grown : Commit.about identity (first.announcements service (schedule ++ part))
        = Commit.about identity (first.announcements service schedule)
          ++ Commit.about identity ((first.run service schedule).announcements service part) := by
      rw [World.announcements_append, Commit.about_append]
    rw [grown]
    exact (consistent.announced_of_completed World.unannounced_begin completed same).trans (List.prefix_append ..)

/-- However calls take turns, and whatever fails meanwhile: the XP of an identity is loaded until that succeeds once,
and never once it is known. A call that asks leaves the store alone in each of its steps. It fails only if a load fails
that it makes. It answers with the XP that some of the changes led to that were saved by then, or with the level or the
rank of that XP: the changes up to the last one that a call had saved which had come to its end when this one began, or
more. -/
theorem loads_once_reads_fresh (service : Service L) (store : Store) (channels : Channels L) (calls : List Call)
    (schedule : List (Nat × Outage)) (identity : Identity) :
    let first := World.begin { store, channels } calls
    let world := first.run service schedule
    ((Fetch.about identity (first.fetches service schedule)).Pairwise fun earlier _ =>
      ∃ fault, earlier.outcome = .error fault) ∧
    ((world.state.cache.get? identity).isSome →
      ∀ rest, Fetch.about identity (world.fetches service rest) = []) ∧
    (∀ (index : Nat) (task : Task L) (outage : Outage) (query : Query), world.tasks[index]? = some task →
      task.call.request = .ask query → (world.step service index outage).state.store = world.state.store) ∧
    ∀ (index : Nat) (task : Task L) (query : Query) (rest : List (Nat × Outage)) (outcome : Outcome),
      world.tasks[index]? = some task → task.phase = .fresh → task.call = ⟨identity, .ask query⟩ →
      world.fate service index task.waiting.length rest = some outcome →
        (∀ fault, outcome = .error fault → ⟨index, identity, .error fault⟩ ∈ world.fetches service rest) ∧
        ∀ answer, outcome = .ok answer → ∃ (earlier : List Commit) (xp : Int),
          earlier <+: Commit.about identity (first.commits service (schedule ++ rest)) ∧
          xp = Commit.last ((store.rows.get? identity).getD 0) earlier ∧
          (query = .xp → answer = .number xp) ∧
          (query = .level → answer = .number (service.formula.levelForXp xp)) ∧
          (query = .rank → answer = .rank (service.ranks.rankForLevel (service.formula.levelForXp xp))) ∧
          ∀ log commit, first.Completed service schedule log commit → commit.identity = identity →
            Commit.about identity (log ++ [commit]) <+: earlier := by
  intro first world
  have settled : ({ store, channels } : State L).Settled := ⟨rfl, fun _ _ known => nomatch known⟩
  have consistent : Consistent service first := settled.consistent calls
  have later : Consistent service world := consistent.run schedule
  refine ⟨consistent.fetches_fail identity schedule, fun known rest => later.fetches_of_loaded (.inl known) rest,
    fun index task outage query present asks => ?_, fun index task query rest outcome present fresh call ended => ?_⟩
  · obtain ⟨after, next, moved, becomes⟩ := World.step_of_present service outage present
    rw [becomes]
    exact moved.store_of_ask asks (later.standing present)
  · have own : task.identity = identity := by rw [Task.identity, call]
    have asks : task.call.request = .ask query := by rw [call]
    have opened : task.phase.Open := by rw [fresh]; trivial
    subst own
    rcases later.fate_of_ask present asks opened ended with ⟨part, ⟨more, rfl⟩, answered⟩ | ⟨fault, failed, member⟩
    · refine ⟨fun fault failed => (by cases answered.symm.trans failed), fun answer success => ?_⟩
      obtain ⟨earlier, inside, shown, sooner⟩ :=
        shown_fresh service store channels calls schedule part more task.identity
      have answer_eq := Except.ok.inj (success.symm.trans answered)
      rw [shown] at answer_eq
      refine ⟨earlier, _, inside, rfl, ?_, ?_, ?_, sooner⟩ <;> (intro same; subst same; exact answer_eq)
    · refine ⟨fun other also => ?_, fun answer success => ?_⟩
      · cases failed.symm.trans also
        exact member
      · cases failed.symm.trans success

end Main

end Logs

/-- An identity has 500 XP. One call asks for it, one adds 30, and one asks again. -/
def World.asking : World Unit := .begin quietStart [⟨"a", .ask .xp⟩, ⟨"a", .change (.addXp 30)⟩, ⟨"a", .ask .xp⟩]

/-- Turns in which the first of these loads the XP and the second one changes it. -/
def askingTurns : List (Nat × Outage) := [0, 1, 0, 0, 1, 1, 1].map fun turn => (turn, {})

/-- Once the call has returned that adds 30, who asks is told of 530, and nothing more is loaded. -/
theorem loads_once_reads_fresh_added :
    let world := World.asking.run quiet askingTurns
    (World.asking.fetches quiet askingTurns).length = 1 ∧ Fetch.about "a" (world.fetches quiet [(2, {})]) = [] ∧
      world.fate quiet 2 0 [(2, {})] = some (.ok (.number 530)) := by
  have fresh := loads_once_reads_fresh quiet quietStart.store quietStart.channels
    [⟨"a", .ask .xp⟩, ⟨"a", .change (.addXp 30)⟩, ⟨"a", .ask .xp⟩] askingTurns "a"
  have asked : (World.asking.run quiet askingTurns).tasks[2]? = some { call := ⟨"a", .ask .xp⟩ } := rfl
  obtain ⟨answer, ended⟩ : ∃ answer, (World.asking.run quiet askingTurns).fate quiet 2 0 [(2, {})] = some (.ok answer) :=
    ⟨_, rfl⟩
  have facts : (World.asking.fetches quiet askingTurns).length = 1 ∧
      ((World.asking.run quiet askingTurns).state.cache.get? "a").isSome ∧
      Commit.about "a" (World.asking.commits quiet (askingTurns ++ [(2, ({} : Outage))])) = [⟨1, 0, "a", .addXp 30, 500, 530⟩] ∧
      World.asking.commits quiet (askingTurns.take 5) = [] ∧
      (World.asking.run quiet (askingTurns.take 5)).commit? quiet 1 {} = some ⟨1, 0, "a", .addXp 30, 500, 530⟩ ∧
      ((World.asking.run quiet (askingTurns.take 5)).step quiet 1 {}).fate quiet 1 0 [(1, {})] ≠ none := by
    decide
  obtain ⟨single, cached, saved, completed⟩ := facts
  obtain ⟨-, once, -, fresh⟩ := fresh
  obtain ⟨earlier, xp, inside, last, answered, -, -, returned⟩ := (fresh 2 _ .xp [(2, {})] _ asked rfl rfl ended).2 _ rfl
  have since : [⟨1, 0, "a", .addXp 30, 500, 530⟩] <+: earlier :=
    returned [] _ ⟨askingTurns.take 5, (1, {}), [(1, {})], rfl, completed⟩ rfl
  -- The one change was saved before, and there is no other.
  have all : earlier = [⟨1, 0, "a", .addXp 30, 500, 530⟩] :=
    (saved ▸ inside).eq_of_length_le since.length_le
  rw [all] at last
  rw [answered rfl, last] at ended
  exact ⟨single, once cached _, ended⟩

end Service

end Progression
