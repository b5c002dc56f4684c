import Mathlib.Data.List.Induction
import Progression.Proofs.Completion

/-!
Scopes of a store in memory. Until a scope is left, what is done in it stays in it, while others save to the store. It
is left in good order, and what was applied is written over rows that are there; or a fault ends it, and nothing is
written.
-/

namespace Progression

namespace Scope

/-- What a block does in a scope. A block that goes on after a fault of staging has staged the rows before it. -/
inductive Use where
  | stream (batchSize : Int)
  | stage (rows : List (Identity × Int))
  | apply
  /-- Whatever else fails in the block. -/
  | raise (fault : StoreFault)

namespace Use

/-- The rows that are staged if there is no fault. -/
def staged : Use → List (Identity × Int)
  | stage rows => rows
  | _ => []

end Use

def perform (scope : Scope) : Use → Except StoreFault Scope
  | .stream batchSize => (scope.streamBy batchSize).map fun _ => scope
  | .stage rows => scope.stage rows
  | .apply => scope.apply.map Prod.fst
  | .raise fault => .error fault

end Scope

/-- A store and the scope of it that is open; as long as there is one, no other can be opened. -/
structure Guarded where
  store : Store
  scope : Option Scope := none

namespace Guarded

/-- What happens while a scope is open: its block goes on, or somebody saves a row. -/
inductive Event where
  | use (use : Scope.Use)
  | save (identity : Identity) (xp : Int)

namespace Event

def staged : Event → List (Identity × Int)
  | .use used => used.staged
  | .save .. => []

def saved : Event → List (Identity × Int)
  | .use _ => []
  | .save identity xp => [(identity, xp)]

end Event

def enter (guarded : Guarded) : Guarded :=
  if guarded.scope.isSome then guarded else { guarded with scope := guarded.store.openScope.toOption }

/-- A fault in the block ends the scope. -/
def happen (guarded : Guarded) : Event → Guarded
  | .use use => { guarded with scope := guarded.scope.bind fun scope => (scope.perform use).toOption }
  | .save identity xp => { guarded with store := (guarded.store.save identity xp).toOption.getD guarded.store }

def run (guarded : Guarded) (events : List Event) : Guarded := events.foldl happen guarded

def leave (guarded : Guarded) : Guarded :=
  match guarded.scope with
  | none => guarded
  | some scope => ⟨guarded.store.commit scope, none⟩

variable {store : Store} {guarded : Guarded} {events : List Event} {event : Event}

/-- The rows that are staged, in order, if there is no fault. -/
def stagedIn (events : List Event) : List (Identity × Int) := events.flatMap Event.staged

def savedIn (events : List Event) : List (Identity × Int) := events.flatMap Event.saved

/-- Whether a row is staged before the last time that the staged rows are applied. -/
def Applied (events : List Event) (row : Identity × Int) : Prop :=
  ∃ before after, events = before ++ .use .apply :: after ∧ row ∈ stagedIn before

/-- Whether a block fails in a scope: it raises a fault, stages an identity twice, or counts rows by zero. -/
def Fails (rows : Entries Identity Int) (events : List Event) : Prop :=
  (∃ fault, .use (.raise fault) ∈ events) ∨ ¬ ((stagedIn events).map Prod.fst).Nodup ∨
    .use (.stream 0) ∈ events ∧ rows.pairs ≠ []

theorem run_concat : guarded.run (events ++ [event]) = (guarded.run events).happen event :=
  List.foldl_concat ..

@[simp] theorem stagedIn_concat : stagedIn (events ++ [event]) = stagedIn events ++ event.staged := by
  simp [stagedIn]

@[simp] theorem savedIn_concat : savedIn (events ++ [event]) = savedIn events ++ event.saved := by
  simp [savedIn]

theorem applied_concat {row : Identity × Int} :
    Applied (events ++ [event]) row ↔ Applied events row ∨ event = .use .apply ∧ row ∈ stagedIn events := by
  constructor
  · rintro ⟨before, after, same, staged⟩
    rcases List.eq_nil_or_concat after with rfl | ⟨rest, last, rfl⟩
    · obtain ⟨rfl, last⟩ := List.append_inj' same rfl
      exact .inr ⟨(List.cons.inj last).1, staged⟩
    · rw [List.concat_eq_append, ← List.cons_append, ← List.append_assoc] at same
      exact .inl ⟨before, rest, (List.append_inj' same rfl).1, staged⟩
  · rintro (⟨before, after, rfl, staged⟩ | ⟨rfl, staged⟩)
    · exact ⟨before, after ++ [event], by simp, staged⟩
    · exact ⟨events, [], rfl, staged⟩

theorem Applied.staged {row : Identity × Int} (applied : Applied events row) : row ∈ stagedIn events := by
  obtain ⟨before, after, rfl, staged⟩ := applied
  rw [stagedIn, List.flatMap_append]
  exact List.mem_append_left _ staged

/-- What the scope that is open comes to, given what happened since it was opened of a store. -/
structure Holds (store : Store) (events : List Event) (scope : Scope) : Prop where
  memory : scope.kind = .memory
  intact : scope.intact = true
  snapshot : scope.snapshot = store.rows
  staged : scope.staged.pairs = stagedIn events
  applied : ∀ row, row ∈ scope.applied.pairs ↔ Applied events row ∧ row.1 ∈ store.rows.keys

variable {scope next : Scope} {use : Scope.Use} {identity : Identity} {xp : Int}

theorem Holds.save (holds : Holds store events scope) : Holds store (events ++ [.save identity xp]) scope where
  memory := holds.memory
  intact := holds.intact
  snapshot := holds.snapshot
  staged := by simpa [Event.staged] using holds.staged
  applied row := by simpa [applied_concat] using holds.applied row

theorem Holds.stage (holds : Holds store events scope) {rows : List (Identity × Int)}
    (success : scope.stage rows = .ok next) : Holds store (events ++ [.use (.stage rows)]) next := by
  obtain ⟨staged, same, rfl⟩ := Scope.stage_ok success
  refine ⟨holds.memory, holds.intact, holds.snapshot, ?_, fun row => ?_⟩
  · rw [stagedIn_concat, ← holds.staged]
    exact same
  · simpa [applied_concat] using holds.applied row

theorem Holds.apply (holds : Holds store events scope) {count : Nat} (success : scope.apply = .ok (next, count)) :
    Holds store (events ++ [.use .apply]) next := by
  obtain rfl := Scope.apply_ok success
  refine ⟨holds.memory, holds.intact, holds.snapshot, ?_, fun row => ?_⟩
  · simpa [Event.staged, Scope.Use.staged] using holds.staged
  · have applied : Applied (events ++ [.use .apply]) row ↔ row ∈ stagedIn events := by
      rw [applied_concat]
      exact ⟨fun staged => staged.elim Applied.staged And.right, fun staged => .inr ⟨rfl, staged⟩⟩
    simp only [applied, Entries.filter, List.mem_filter, holds.staged, holds.snapshot, Entries.contains_eq_true_iff]

theorem Holds.perform (holds : Holds store events scope) (success : scope.perform use = .ok next) :
    Holds store (events ++ [.use use]) next := by
  cases use with
  | stream batchSize =>
    obtain ⟨rows, -, rfl⟩ := map_eq_ok.1 success
    refine ⟨holds.memory, holds.intact, holds.snapshot, ?_, fun row => ?_⟩
    · simpa [Event.staged, Scope.Use.staged] using holds.staged
    · simpa [applied_concat] using holds.applied row
  | stage rows => exact holds.stage success
  | apply =>
    obtain ⟨⟨after, count⟩, applied, rfl⟩ := map_eq_ok.1 success
    exact holds.apply applied
  | raise fault => cases success

theorem Holds.stage_iff (holds : Holds store events scope) {rows : List (Identity × Int)} :
    (∃ next, scope.stage rows = .ok next) ↔ ((stagedIn events ++ rows).map Prod.fst).Nodup := by
  rw [← holds.staged]
  constructor
  · rintro ⟨next, success⟩
    obtain ⟨staged, same, -⟩ := Scope.stage_ok success
    rw [← same]
    exact staged.distinct
  · intro distinct
    rw [List.map_append] at distinct
    exact Scope.stage_of_fresh distinct fun row _ => by rw [holds.memory]; rfl

theorem Holds.streamBy_iff (holds : Holds store events scope) {batchSize : Int} :
    (∃ rows, scope.streamBy batchSize = .ok rows) ↔ ¬ (batchSize = 0 ∧ store.rows.pairs ≠ []) := by
  have streamed : scope.stream = .ok store.rows.pairs := by rw [Scope.stream, holds.memory, holds.snapshot]
  rw [Scope.streamBy, streamed]
  by_cases zero : batchSize = 0 ∧ store.rows.pairs ≠ []
  · simp [holds.memory, zero, bind, Except.bind, throw, throwThe, MonadExceptOf.throw]
  · have counts : ¬ (scope.kind = .memory ∧ batchSize = 0 ∧ (!store.rows.pairs.isEmpty) = true) := by
      simpa [holds.memory] using zero
    simp only [bind, Except.bind, if_neg counts, zero, not_false_eq_true, iff_true]
    exact ⟨_, rfl⟩

/-- A scope is used without a fault just if its block does not fail by that. -/
theorem Holds.perform_iff (holds : Holds store events scope) (sound : ¬ Fails store.rows events) :
    (∃ next, scope.perform use = .ok next) ↔ ¬ Fails store.rows (events ++ [.use use]) := by
  simp only [Fails, not_or, not_exists, not_not, not_and] at sound
  obtain ⟨calm, distinct, counted⟩ := sound
  cases use with
  | stream batchSize =>
    refine (exists_map_ok.trans holds.streamBy_iff).trans (not_congr ?_)
    simp [Fails, Event.staged, Scope.Use.staged, calm, distinct, eq_comm, or_and_right]
    exact fun present occupied => absurd (counted present) occupied
  | stage rows =>
    refine holds.stage_iff.trans ?_
    simp [Fails, Event.staged, Scope.Use.staged, calm]
    exact fun _ => counted
  | apply =>
    refine iff_of_true (exists_map_ok.2 ⟨_, if_pos holds.intact⟩) ?_
    simpa [Fails, Event.staged, Scope.Use.staged, calm, distinct] using counted
  | raise fault => simp [Scope.perform, Fails]

/-- What a store and its scope come to, given what happened since the scope was opened. -/
structure Within (store : Store) (events : List Event) (guarded : Guarded) : Prop where
  saved : guarded.store = { store with rows := store.rows.putAll (savedIn events) }
  holds : ∀ scope, guarded.scope = some scope → Holds store events scope
  isSome_iff : guarded.scope.isSome = true ↔ ¬ Fails store.rows events

theorem Fails.concat {rows : Entries Identity Int} (fails : Fails rows events) : Fails rows (events ++ [event]) := by
  rcases fails with ⟨fault, raised⟩ | repeated | ⟨streamed, occupied⟩
  · exact .inl ⟨fault, List.mem_append_left _ raised⟩
  · refine .inr (.inl fun distinct => repeated ?_)
    rw [stagedIn_concat, List.map_append] at distinct
    exact (List.nodup_append.1 distinct).1
  · exact .inr (.inr ⟨List.mem_append_left _ streamed, occupied⟩)

theorem enter_of_ready (ready : store.Ready) : (Guarded.mk store none).enter = ⟨store, some store.scope⟩ := by
  rw [enter, Store.openScope_of_ready ready]
  rfl

theorem within_enter (memory : store.kind = .memory) (ready : store.Ready) :
    Within store [] (Guarded.mk store none).enter := by
  rw [enter_of_ready ready]
  refine ⟨rfl, fun scope same => ?_, iff_of_true rfl ?_⟩
  · cases same
    refine ⟨memory, ready.2, rfl, rfl, fun row => iff_of_false List.not_mem_nil ?_⟩
    exact fun applied => absurd applied.1.staged List.not_mem_nil
  · simp [Fails, stagedIn]

theorem Within.happen (within : Within store events guarded) (memory : store.kind = .memory) (ready : store.Ready) :
    Within store (events ++ [event]) (guarded.happen event) := by
  cases event with
  | save identity xp =>
    have written : guarded.happen (.save identity xp)
        = { guarded with store := { store with rows := (store.rows.putAll (savedIn events)).put identity xp } } := by
      have stays : Store.Ready { store with rows := store.rows.putAll (savedIn events) } := ready
      rw [Guarded.happen, within.saved, Store.save_of_ready stays (by rw [memory]; rfl)]
      rfl
    rw [written]
    refine ⟨?_, fun scope same => (within.holds scope same).save, within.isSome_iff.trans ?_⟩
    · simp [Entries.putAll, Event.saved]
    · simp [Fails, Event.staged]
  | use use =>
    have saved : savedIn (events ++ [.use use]) = savedIn events := by simp [Event.saved]
    refine ⟨by rw [saved]; exact within.saved, ?_, ?_⟩
    · intro next same
      obtain ⟨scope, opened, success⟩ := Option.bind_eq_some_iff.1 same
      exact (within.holds scope opened).perform (toOption_eq_some.1 success)
    · cases opened : guarded.scope with
      | none =>
        have failed : Fails store.rows events := by simpa [opened] using within.isSome_iff
        simpa [Guarded.happen, opened] using failed.concat
      | some scope =>
        have sound : ¬ Fails store.rows events := by simpa [opened] using within.isSome_iff
        rw [← (within.holds scope opened).perform_iff sound]
        simp [Guarded.happen, opened, Option.isSome_iff_exists, toOption_eq_some]

theorem within_run (memory : store.kind = .memory) (ready : store.Ready) (events : List Event) :
    Within store events ((Guarded.mk store none).enter.run events) := by
  induction events using List.reverseRecOn with
  | nil => exact within_enter memory ready
  | append_singleton events event ih =>
    rw [run_concat]
    exact ih.happen memory ready

/-- What leaving a scope writes. -/
theorem Within.leave (within : Within store events guarded) :
    ∃ written : Entries Identity Int,
      guarded.leave = ⟨{ store with rows := (store.rows.putAll (savedIn events)).putAll written.pairs }, none⟩ ∧
      ∀ row, row ∈ written.pairs ↔ ¬ Fails store.rows events ∧ Applied events row ∧ row.1 ∈ store.rows.keys := by
  rw [Guarded.leave]
  cases opened : guarded.scope with
  | none =>
    have fails : Fails store.rows events := by simpa [opened] using within.isSome_iff
    refine ⟨∅, ?_, fun row => iff_of_false List.not_mem_nil fun member => member.1 fails⟩
    obtain ⟨left, scope⟩ := guarded
    obtain rfl : scope = none := opened
    exact congrArg (Guarded.mk · none) within.saved
  | some scope =>
    have sound : ¬ Fails store.rows events := by simpa [opened] using within.isSome_iff
    refine ⟨scope.applied, ?_, fun row => ?_⟩
    · rw [within.saved]
      rfl
    · rw [(within.holds scope opened).applied row, and_iff_right sound]

/-- A scope of a store in memory is all or nothing. Whatever happens since it was entered, the store shows nothing but
what was saved. Leaving it writes the rows that were there when it was entered and that were staged before the last
apply, and no others; if its block fails, it writes nothing. No row is added or removed, the metadata stay, and a scope
can be entered that has nothing staged. -/
theorem scope_all_or_nothing (memory : store.kind = .memory) (ready : store.Ready) (events : List Event) :
    let inside := (Guarded.mk store none).enter.run events
    let saved := store.rows.putAll (savedIn events)
    let after := inside.leave
    (inside.store.stream = .ok saved.pairs ∧ ∀ identity, inside.store.load identity = .ok (saved.get? identity) ∧
      inside.store.contains identity = .ok (saved.contains identity)) ∧
    (inside.scope = none ↔ Fails store.rows events) ∧
    (Fails store.rows events → after.store.rows = saved) ∧
    (¬ Fails store.rows events →
      (∀ identity xp, Applied events (identity, xp) → identity ∈ store.rows.keys →
        after.store.rows.get? identity = some xp) ∧
      ∀ identity, identity ∉ store.rows.keys ∨ (∀ xp, ¬ Applied events (identity, xp)) →
        after.store.rows.get? identity = saved.get? identity) ∧
    after.store.rows.keys = saved.keys ∧
    inside.store.metadata = store.metadata ∧ after.store.metadata = store.metadata ∧
    after.scope = none ∧ after.enter = { after with scope := some ⟨.memory, true, after.store.rows, ∅, ∅⟩ } := by
  intro inside saved after
  have within : Within store events inside := within_run memory ready events
  obtain ⟨written, left, writes⟩ := within.leave
  have after_eq : after = ⟨{ store with rows := saved.putAll written.pairs }, none⟩ := left
  have stays : inside.store.Ready := by rw [within.saved]; exact ready
  have found (identity : Identity) :
      after.store.rows.get? identity = (written.get? identity).or (saved.get? identity) := by
    rw [after_eq]
    exact Entries.get?_putAll
  have known : ∀ row ∈ written.pairs, row.1 ∈ saved.keys := fun row member =>
    Entries.mem_keys_putAll.2 (.inr ((writes row).1 member).2.2)
  refine ⟨⟨?_, fun identity => ⟨?_, ?_⟩⟩, ?_, fun fails => ?_, fun sound => ⟨fun identity xp applied there => ?_, ?_⟩,
    ?_, ?_, ?_, ?_, ?_⟩
  · rw [Store.stream_of_ready stays, within.saved]
  · rw [Store.load_of_ready stays, within.saved]
  · rw [Store.contains_of_ready stays, within.saved]
  · rw [← not_iff_not, ← within.isSome_iff, Option.isSome_iff_ne_none]
  · have nothing : written.pairs = [] :=
      List.eq_nil_iff_forall_not_mem.2 fun row member => ((writes row).1 member).1 fails
    rw [after_eq, nothing]
    rfl
  · rw [found, Entries.get?_eq_some_iff.2 ((writes (identity, xp)).2 ⟨sound, applied, there⟩)]
    rfl
  · intro identity untouched
    have unwritten : written.get? identity = none := by
      refine Option.eq_none_iff_forall_ne_some.2 fun xp present => ?_
      obtain ⟨-, applied, there⟩ := (writes (identity, xp)).1 (Entries.get?_eq_some_iff.1 present)
      exact untouched.elim (fun absent => absent there) fun unstaged => unstaged xp applied
    rw [found, unwritten, Option.none_or]
  · rw [after_eq]
    exact Entries.keys_putAll_of_subset known
  · rw [within.saved]
  · rw [after_eq]
  · rw [after_eq]
  · have open_still : Store.Ready { store with rows := saved.putAll written.pairs } := ready
    rw [after_eq, enter_of_ready open_still, Store.scope, memory, ready.2]

/-- Of the rows that are staged, those are written that are there and that are applied; others stay as they were
saved. -/
theorem scope_all_or_nothing_once :
    let store : Store := { rows := .ofList [("ada", 5), ("bea", 7)] }
    let events : List Event := [.use (.stage [("ada", 1), ("cyd", 9)]), .use .apply, .save "bea" 8,
      .use (.stage [("bea", 2)])]
    let after := ((Guarded.mk store none).enter.run events).leave
    store.kind = .memory ∧ store.Ready ∧ after.store.rows.get? "ada" = some 1 ∧ after.store.rows.get? "bea" = some 8 ∧
      after.store.rows.get? "cyd" = none := by
  intro store events after
  have ready : store.Ready := ⟨rfl, rfl⟩
  obtain ⟨-, fails, -, sound, keys, -⟩ := scope_all_or_nothing rfl ready events
  have calm : ¬ Fails store.rows events := fails.not.1 (by decide)
  refine ⟨rfl, ready, (sound calm).1 "ada" 1 ?_ (by decide), ((sound calm).2 "bea" (.inr ?_)).trans (by decide), ?_⟩
  · exact ⟨[.use (.stage [("ada", 1), ("cyd", 9)])], _, rfl, by decide⟩
  · rintro xp ⟨before, later, same, staged⟩
    rcases before with _ | ⟨first, _ | ⟨second, rest⟩⟩
    · cases (List.cons.inj same).1
    · obtain rfl := (List.cons.inj same).1
      simp [stagedIn, Event.staged, Scope.Use.staged] at staged
    · have again : Event.use .apply ∈ [Event.save "bea" 8, .use (.stage [("bea", 2)])] := by
        rw [(List.cons.inj (List.cons.inj same).2).2]
        simp
      simp at again
  · exact ((sound calm).2 "cyd" (.inl (by decide))).trans (by decide)

section Transact

/-- Events as the work of a block, which ends at the first fault. -/
def work : List Event → Scope → Store → Except StoreFault (Unit × Scope) × Store
  | [], scope, store => (.ok ((), scope), store)
  | .use use :: rest, scope, store =>
    match scope.perform use with
    | .error fault => (.error fault, store)
    | .ok next => work rest next store
  | .save identity xp :: rest, scope, store => work rest scope ((store.save identity xp).toOption.getD store)

theorem scope_run_of_none (closed : guarded.scope = none) : (guarded.run events).scope = none := by
  induction events using List.reverseRecOn with
  | nil => exact closed
  | append_singleton events event ih =>
    rw [run_concat]
    cases event with
    | use use => exact Option.bind_eq_none_iff.2 fun scope opened => absurd (ih.symm.trans opened) nofun
    | save identity xp => exact ih

theorem happen_of_error {fault : StoreFault} (failed : scope.perform use = .error fault) :
    (Guarded.mk store (some scope)).happen (.use use) = ⟨store, none⟩ := by
  rw [happen, Option.bind_some, failed]
  rfl

theorem happen_of_ok (success : scope.perform use = .ok next) :
    (Guarded.mk store (some scope)).happen (.use use) = ⟨store, some next⟩ := by
  rw [happen, Option.bind_some, success]
  rfl

/-- A block that does not fail comes to the end of its work, with the scope and the store as they are then. -/
theorem work_of_open {last : Scope} {after : Store}
    (ran : (Guarded.mk store (some scope)).run events = ⟨after, some last⟩) :
    work events scope store = (.ok ((), last), after) := by
  induction events generalizing store scope with
  | nil =>
    cases ran
    rfl
  | cons event rest ih =>
    cases event with
    | save identity xp => exact ih ran
    | use use =>
      rw [run, List.foldl_cons, ← run] at ran
      rw [work]
      split
      · rename_i fault failed
        rw [happen_of_error failed] at ran
        cases (congrArg Guarded.scope ran).symm.trans (scope_run_of_none rfl)
      · rename_i next success
        rw [happen_of_ok success] at ran
        exact ih ran

/-- A block that fails ends with a fault of a use of the scope, and the store is left as it is then. -/
theorem work_of_closed (ran : ((Guarded.mk store (some scope)).run events).scope = none) :
    ∃ before use rest fault, events = before ++ .use use :: rest ∧
      work events scope store = (.error fault, ((Guarded.mk store (some scope)).run before).store) := by
  induction events generalizing store scope with
  | nil => cases ran
  | cons event rest ih =>
    cases event with
    | save identity xp =>
      obtain ⟨before, use, later, fault, same, worked⟩ := ih ran
      exact ⟨.save identity xp :: before, use, later, fault, by rw [same, List.cons_append], worked⟩
    | use use =>
      rw [run, List.foldl_cons, ← run] at ran
      rw [work]
      split
      · rename_i fault failed
        exact ⟨[], use, rest, fault, rfl, rfl⟩
      · rename_i next success
        rw [happen_of_ok success] at ran
        obtain ⟨before, other, later, fault, same, worked⟩ := ih ran
        refine ⟨.use use :: before, other, later, fault, by rw [same, List.cons_append], ?_⟩
        rw [worked, run, run, List.foldl_cons, happen_of_ok success]

/-- The work of a block is done, and what it applied written, as by entering a scope, going on until the end or a fault,
and leaving it. -/
theorem transact_work (ready : store.Ready) :
    let inside := (Guarded.mk store none).enter.run events
    (inside.scope.isSome = true ∧ store.transact (work events) = .ok (.ok (), inside.leave.store)) ∨
      inside.scope = none ∧ ∃ before use rest fault, events = before ++ .use use :: rest ∧
        store.transact (work events) = .ok (.error fault, ((Guarded.mk store none).enter.run before).store) := by
  intro inside
  have entered : (Guarded.mk store none).enter = ⟨store, some store.scope⟩ := enter_of_ready ready
  have opened : store.openScope = .ok store.scope := Store.openScope_of_ready ready
  cases within : inside.scope with
  | none =>
    have ran : ((Guarded.mk store (some store.scope)).run events).scope = none := by rw [← entered]; exact within
    obtain ⟨before, use, rest, fault, same, worked⟩ := work_of_closed ran
    refine .inr ⟨rfl, before, use, rest, fault, same, ?_⟩
    simp only [Store.transact, opened, bind, Except.bind, worked, entered]
    rfl
  | some last =>
    have ran : (Guarded.mk store (some store.scope)).run events = ⟨inside.store, some last⟩ := by
      rw [← entered, ← within]
    refine .inl ⟨rfl, ?_⟩
    rw [leave, within]
    simp only [Store.transact, opened, bind, Except.bind, work_of_open ran]
    rfl

end Transact

end Guarded

end Progression
