import Progression.Proofs.Endurance
import Progression.Proofs.Staging

/-!
Migrations in different portions. How many rows are staged together, how many are done between two reports, who is
told and how that goes: none of this has a part in how a migration ends, as long as the store does not fail.
-/

namespace Progression

namespace Migration

/-- Migrations that differ at most in the portions and in who is told. -/
structure Twins (left right : Migration) : Prop where
  formula : left.formula = right.formula
  directory : left.directory = right.directory
  enabled : left.pace.enabled = right.pace.enabled
  timeout : left.pace.timeout = right.pace.timeout

/-- Two outcomes that match: related results or the same fault, unless the store fails one of them while rows are
rewritten. -/
inductive Matched {α : Type} (related : α → α → Prop) : Except Fault α → Except Fault α → Prop where
  | ok {left right : α} (holds : related left right) : Matched related (.ok left) (.ok right)
  | refused {fault : Fault} : Matched related (.error fault) (.error fault)
  | left {fault : StoreFault} {right : Except Fault α} : Matched related (.error (.rewriting fault)) right
  | right {left : Except Fault α} {fault : StoreFault} : Matched related left (.error (.rewriting fault))

/-- An outcome that is refused by nothing but a failure of the store while rows are rewritten. -/
def Sustained {α : Type} (outcome : Except Fault α) : Prop :=
  ∀ fault, outcome = .error fault → ∃ cause, fault = .rewriting cause

section Matched

variable {α β : Type} {related : α → α → Prop} {left right : Except Fault α}

theorem Matched.same {outcome : Except Fault α} : Matched (· = ·) outcome outcome := by
  cases outcome with
  | error fault => exact .refused
  | ok value => exact .ok rfl

theorem Matched.bind {after : β → β → Prop} {next other : α → Except Fault β} (first : Matched related left right)
    (rest : ∀ {one two}, related one two → Matched after (next one) (other two)) :
    Matched after (left >>= next) (right >>= other) := by
  cases first with
  | ok holds => exact rest holds
  | refused => exact .refused
  | left => exact .left
  | right => exact .right

theorem sustained_ok {value : α} : Sustained (.ok value) := by
  intro fault failure
  cases failure

theorem matched_of_sustained (first : Sustained left) (second : Sustained right)
    (both : ∀ {one two}, left = .ok one → right = .ok two → related one two) : Matched related left right := by
  cases left with
  | error fault =>
    obtain ⟨cause, rfl⟩ := first fault rfl
    exact .left
  | ok one =>
    cases right with
    | error fault =>
      obtain ⟨cause, rfl⟩ := second fault rfl
      exact .right
    | ok two => exact .ok (both rfl rfl)

end Matched

variable {left right : Migration} {old : Formula}

namespace Twins

variable (twins : Twins left right)

include twins

theorem descriptor : left.descriptor = right.descriptor := congrArg Descriptor.describe twins.formula

theorem expired : left.pace.expired = right.pace.expired := by
  rw [Pace.expired, Pace.expired, twins.timeout]

theorem ofStore : Fault.ofStore left = Fault.ofStore right := by
  funext fault
  rw [Fault.ofStore, Fault.ofStore, twins.timeout]

theorem target {level : Nat} : left.target level = right.target level := by
  rw [Migration.target, Migration.target, twins.formula]

end Twins

namespace Rewrite

variable {one two three : Rewrite} {migration : Migration}

theorem Even.symm (even : Even one two) : Even two one := by
  obtain ⟨staged, same⟩ := even.scope
  refine ⟨⟨one.scope.staged, ?_⟩, even.rows.symm, even.targets.symm, even.processed.symm⟩
  rw [same]

theorem Even.trans (even : Even one two) (further : Even two three) : Even one three := by
  obtain ⟨staged, same⟩ := even.scope
  obtain ⟨later, again⟩ := further.scope
  refine ⟨⟨later, ?_⟩, further.rows.trans even.rows, further.targets.trans even.targets,
    further.processed.trans even.processed⟩
  rw [again, same]

/-- Once all rows are staged, there is no difference in the scope. -/
theorem Even.scope_eq (even : Even one two) (staged : one.batch = []) (also : two.batch = []) :
    two.scope = one.scope := by
  obtain ⟨changed, same⟩ := even.scope
  have pairs : two.scope.staged = one.scope.staged := by
    apply Entries.ext_pairs
    simpa only [staged, also, List.append_nil] using even.rows
  rw [same] at pairs ⊢
  rw [show changed = one.scope.staged from pairs]

theorem flush_sustained : Sustained (one.flush migration .none) := by
  intro fault failure
  cases staged : one.scope.stage one.batch with
  | ok scope =>
    rw [flush, staged] at failure
    cases failure
  | error cause =>
    have refused : one.flush migration .none = .error (.ofStore migration cause) := by
      rw [flush, staged]
      rfl
    rw [Fault.ofStore, if_neg (Scope.kind_of_stage_error staged)] at refused
    exact ⟨cause, Except.error.inj (failure.symm.trans refused)⟩

theorem gather_sustained : Sustained (one.gather migration .none) := by
  rw [gather]
  split
  · exact flush_sustained
  · exact sustained_ok

theorem clear_sustained : Sustained (one.clear migration .none) := by
  rw [clear]
  split
  · exact sustained_ok
  · exact flush_sustained

theorem matched_add (twins : Twins left right) (even : Even one two) {row : Identity × Int} :
    Matched Even (one.add left old .none row) (two.add right old .none row) := by
  have guarded : Matched (· = ·) ((Mishaps.none.guard (.stream one.processed)).mapError (Fault.ofStore left))
      ((Mishaps.none.guard (.stream two.processed)).mapError (Fault.ofStore right)) := .ok rfl
  have found : one.targetOf left (old.levelForXp row.2) = two.targetOf right (old.levelForXp row.2) := by
    rw [targetOf, targetOf, even.targets, twins.target]
  rw [add_eq, add_eq, found]
  refine guarded.bind fun _ => Matched.same.bind fun {floor _} same => ?_
  subst same
  have waits : Even (one.await row.1 (old.levelForXp row.2) floor) (two.await row.1 (old.levelForXp row.2) floor) := by
    refine ⟨even.scope, ?_, ?_, even.processed⟩
    · simp only [await, ← List.append_assoc, even.rows]
    · simp only [await, even.targets]
  have gathered : Matched Even
      ((one.await row.1 (old.levelForXp row.2) floor).gather left .none)
      ((two.await row.1 (old.levelForXp row.2) floor).gather right .none) :=
    matched_of_sustained gather_sustained gather_sustained fun first second =>
      ((gather_even first).symm.trans waits).trans (gather_even second)
  refine gathered.bind fun same => .ok ⟨same.scope, same.rows, same.targets, ?_⟩
  simp only [tally, same.processed]

/-- What rewriting rows comes to, without the work done before a fault. -/
def outcome : Rewrite × Option Fault → Except Fault Rewrite
  | (rewrite, none) => .ok rewrite
  | (_, some fault) => .error fault

theorem outcome_addAll_cons {mishaps : Mishaps} {row : Identity × Int} {rest : List (Identity × Int)} :
    outcome (one.addAll migration old mishaps (row :: rest))
      = one.add migration old mishaps row >>= fun next => outcome (next.addAll migration old mishaps rest) := by
  rw [addAll]
  cases one.add migration old mishaps row with
  | error fault => rfl
  | ok next => rfl

theorem matched_addAll (twins : Twins left right) (even : Even one two) {rows : List (Identity × Int)} :
    Matched Even (outcome (one.addAll left old .none rows)) (outcome (two.addAll right old .none rows)) := by
  induction rows generalizing one two with
  | nil => exact .ok even
  | cons row rest ih =>
    rw [outcome_addAll_cons, outcome_addAll_cons]
    exact (matched_add twins even).bind ih

/-- Work that is done, with the same scope to be left. -/
structure Closed (one two : Rewrite) : Prop where
  scope : two.scope = one.scope
  targets : two.targets = one.targets
  processed : two.processed = one.processed

theorem matched_close (twins : Twins left right) (even : Even one two) :
    Matched Closed (one.close left .none) (two.close right .none) := by
  have cleared : Matched (fun first second => Even first second ∧ second.scope = first.scope)
      (one.clear left .none) (two.clear right .none) := by
    refine matched_of_sustained clear_sustained clear_sustained fun first second => ?_
    obtain ⟨kept, empty⟩ := clear_even first
    obtain ⟨also, none⟩ := clear_even second
    have same := (kept.symm.trans even).trans also
    exact ⟨same, same.scope_eq empty none⟩
  rw [close_eq, close_eq, twins.ofStore]
  refine cleared.bind fun {first second} found => ?_
  obtain ⟨same, scope⟩ := found
  rw [scope]
  refine Matched.same.bind fun _ => Matched.same.bind fun {applied _} equal => ?_
  subst equal
  exact .ok ⟨rfl, same.targets, same.processed⟩

end Rewrite

/-- States of two migrations that are as far, unless the store has failed one of the two. -/
inductive Abreast : Shared × Phase → Shared × Phase → Prop where
  | fresh {shared : Shared} : Abreast (shared, .fresh) (shared, .fresh)
  | kindRead {shared : Shared} {kind : Option String} : Abreast (shared, .kindRead kind) (shared, .kindRead kind)
  | adopting {shared : Shared} : Abreast (shared, .adopting) (shared, .adopting)
  | opening {shared : Shared} {previous : Descriptor} {old : Formula} :
    Abreast (shared, .opening previous old) (shared, .opening previous old)
  | rewriting {shared : Shared} {previous : Descriptor} {old : Formula} {rest : List (Identity × Int)}
    {one two : Rewrite} (even : one.Even two) :
    Abreast (shared, .rewriting previous old rest one) (shared, .rewriting previous old rest two)
  | committing {shared : Shared} {previous : Descriptor} {one two : Rewrite} (closed : one.Closed two) :
    Abreast (shared, .committing previous one) (shared, .committing previous two)
  | recording {shared : Shared} {previous : Descriptor} {one two : Rewrite} (closed : one.Closed two) :
    Abreast (shared, .recording previous one) (shared, .recording previous two)
  | finished {shared : Shared} {result : Except Fault Result} {reports others : List (Nat × Bool)} :
    Abreast (shared, .finished result reports) (shared, .finished result others)
  -- Nothing more is said of either once the store has failed one of them.
  | left {shared : Shared} {fault : StoreFault} {reports : List (Nat × Bool)} {other : Shared × Phase} :
    Abreast (shared, .finished (.error (.rewriting fault)) reports) other
  | right {shared : Shared} {fault : StoreFault} {reports : List (Nat × Bool)} {other : Shared × Phase} :
    Abreast other (shared, .finished (.error (.rewriting fault)) reports)

section Steps

variable {shared : Shared} {store : Store} {previous : Descriptor} {rest : List (Identity × Int)}
  {one two : Rewrite} {count : Nat}

theorem Abreast.refl (state : Shared × Phase) : Abreast state state := by
  obtain ⟨shared, phase⟩ := state
  cases phase with
  | fresh => exact .fresh
  | kindRead => exact .kindRead
  | adopting => exact .adopting
  | opening => exact .opening
  | rewriting => exact .rewriting (.refl _)
  | committing => exact .committing ⟨rfl, rfl, rfl⟩
  | recording => exact .recording ⟨rfl, rfl, rfl⟩
  | finished => exact .finished

theorem settle_eq (twins : Twins left right) : settle left = settle right := by
  funext found
  cases found with
  | none => rfl
  | some previous =>
    rw [settle, settle, twins.descriptor, twins.directory, twins.expired, twins.timeout]

theorem abreast_record (twins : Twins left right) {result : Result} {reports others : List (Nat × Bool)} :
    Abreast (record left .none shared result reports) (record right .none shared result others) := by
  rw [record, record, twins.descriptor]
  split <;> exact .finished

theorem abreast_rewriting (twins : Twins left right) (even : one.Even two) :
    Abreast (step left .none count shared (.rewriting previous old rest one))
      (step right .none count shared (.rewriting previous old rest two)) := by
  cases rest with
  | nil =>
    have matched := Rewrite.matched_close twins even
    simp only [step]
    generalize one.close left .none = first at matched ⊢
    generalize two.close right .none = second at matched ⊢
    cases matched with
    | ok closed => exact .committing closed
    | refused => exact .finished
    | left => exact .left
    | right => exact .right
  | cons row rest =>
    have matched : Matched Rewrite.Even (Rewrite.outcome (one.addAll left old .none ((row :: rest).take count)))
        (Rewrite.outcome (two.addAll right old .none ((row :: rest).take count))) :=
      Rewrite.matched_addAll twins even
    simp only [step]
    generalize one.addAll left old .none ((row :: rest).take count) = first at matched ⊢
    generalize two.addAll right old .none ((row :: rest).take count) = second at matched ⊢
    obtain ⟨reached, stopped⟩ := first
    obtain ⟨other, halted⟩ := second
    cases stopped with
    | none =>
      cases halted with
      | none =>
        cases matched with
        | ok further => exact .rewriting further
      | some fault =>
        cases matched with
        | right => exact .right
    | some fault =>
      cases halted with
      | none =>
        cases matched with
        | left => exact .left
      | some again =>
        cases matched with
        | refused => exact .finished
        | left => exact .left
        | right => exact .right

/-- Migrations that differ in their portions keep abreast. -/
theorem abreast_step (twins : Twins left right) {state other : Shared × Phase} (abreast : Abreast state other) :
    Abreast (step left .none count state.1 state.2) (step right .none count other.1 other.2) := by
  cases abreast with
  | @fresh shared =>
    have same : step left .none count shared .fresh = step right .none count shared .fresh := by
      rw [step, step, twins.enabled]
    exact same ▸ .refl _
  | @kindRead shared kind =>
    have same : step left .none count shared (.kindRead kind) = step right .none count shared (.kindRead kind) := by
      rw [step, step, readParams, readParams, settle_eq twins]
    exact same ▸ .refl _
  | adopting => exact abreast_record twins
  | @opening shared previous old =>
    have same : step left .none count shared (.opening previous old)
        = step right .none count shared (.opening previous old) := by
      rw [step, step, openScope, openScope, twins.ofStore]
    exact same ▸ .refl _
  | rewriting even => exact abreast_rewriting twins even
  | @committing shared previous one two closed =>
    simp only [step, Mishaps.none, closed.scope]
    exact .recording closed
  | recording closed =>
    simp only [step, closed.targets, closed.processed]
    exact abreast_record twins
  | finished => exact .finished
  | left => exact .left
  | right => exact .right

theorem abreast_steps (twins : Twins left right) {rows : Nat} {state other : Shared × Phase}
    (abreast : Abreast state other) :
    Abreast (steps left .none rows count state) (steps right .none rows count other) := by
  induction count generalizing state other with
  | zero => exact abreast
  | succ count ih => exact ih (abreast_step twins abreast)

theorem Abreast.ended {state other : Shared × Phase} {first second : Except Fault Result}
    (abreast : Abreast state other) (returned : state.2.result? = some first) (ended : other.2.result? = some second)
    (spared : ∀ fault, first ≠ .error (.rewriting fault)) (unhurt : ∀ fault, second ≠ .error (.rewriting fault)) :
    first = second ∧ state.1 = other.1 := by
  cases abreast with
  | finished => exact ⟨Option.some.inj (returned.symm.trans ended), rfl⟩
  | left => exact absurd (Option.some.inj returned).symm (spared _)
  | right => exact absurd (Option.some.inj ended).symm (unhurt _)
  | _ => cases returned

/-- Unless the store fails, migrations that differ in their portions end alike, and leave the same store. -/
theorem run_of_twins (twins : Twins left right) (spared : left.Spared store) (unhurt : right.Spared store) :
    (left.run .none store).result = (right.run .none store).result ∧
      (left.run .none store).store = (right.run .none store).store := by
  have abreast : Abreast (finalState left .none store) (finalState right .none store) := abreast_steps twins .fresh
  obtain ⟨same, shared⟩ := abreast.ended result?_finalState result?_finalState spared unhurt
  exact ⟨same, congrArg Shared.store shared⟩

end Steps

theorem Holds.of_twins {store : Store} (twins : Twins left right) (holds : left.Holds store) : right.Holds store := by
  intro previous old due row member
  have same : left.Due store previous old :=
    ⟨due.stored, twins.descriptor ▸ due.differs, twins.directory ▸ due.rebuilt⟩
  have kept := holds previous old same row member
  rw [Preserves, rewritten, twins.formula] at kept
  exact kept

/-- In what portions rows are staged and reported, as given, and who is told. -/
structure Portions where
  batchSize : Int
  progressEvery : Int
  observer : Option (Nat → Bool)

namespace Portions

variable {portions : Portions} {formula : Formula} {directory : Directory} {enabled : Bool} {timeout : Value}
  {migration : Migration} {store : Store}

/-- The migration in given portions. -/
def migration? (portions : Portions) (formula : Formula) (directory : Directory) (enabled : Bool) (timeout : Value) :
    Except PaceFault Migration := do
  let pace ← Pace.make? enabled portions.batchSize portions.progressEvery timeout
  return { formula, directory, pace, observer := portions.observer }

/-- The numbers of rows at which a report is due. -/
def dueAt (portions : Portions) (rows : Nat) : List Nat :=
  (List.range' 1 rows).filter fun count => max 1 portions.progressEvery ∣ (count : Int)

theorem exists_migration (fills : 1 ≤ portions.batchSize) :
    ∃ migration, portions.migration? formula directory enabled timeout = .ok migration := by
  rw [migration?, Pace.make?, dif_pos fills]
  exact ⟨_, rfl⟩

/-- What a migration is made of. -/
structure Makes (portions : Portions) (formula : Formula) (directory : Directory) (enabled : Bool) (timeout : Value)
    (migration : Migration) : Prop where
  formula : migration.formula = formula
  directory : migration.directory = directory
  enabled : migration.pace.enabled = enabled
  timeout : migration.pace.timeout = timeout
  every : (migration.pace.progressEvery : Int) = max 1 portions.progressEvery
  observer : migration.observer = portions.observer

theorem makes_of_ok (made : portions.migration? formula directory enabled timeout = .ok migration) :
    portions.Makes formula directory enabled timeout migration := by
  obtain ⟨pace, paced, made⟩ := bind_eq_ok.1 made
  cases made
  rw [Pace.make?] at paced
  split at paced
  · cases paced
    refine ⟨rfl, rfl, rfl, rfl, ?_, rfl⟩
    exact Int.toNat_of_nonneg (Int.le_trans (by decide) (Int.le_max_left 1 portions.progressEvery))
  · cases paced

theorem Makes.twins {other : Portions} {left right : Migration}
    (makes : portions.Makes formula directory enabled timeout left)
    (also : other.Makes formula directory enabled timeout right) : Twins left right :=
  ⟨makes.formula.trans also.formula.symm, makes.directory.trans also.directory.symm,
    makes.enabled.trans also.enabled.symm, makes.timeout.trans also.timeout.symm⟩

/-- What a run that says that it migrated has staged and told: each row once, with the floor of its level, and each
number of rows at which a report is due. -/
structure Served (portions : Portions) (migration : Migration) (store : Store) (result : Result) : Prop where
  staged : ∃ previous old, migration.Due store previous old ∧
    (migration.batches .none store).flatten = store.rows.pairs.map (migration.rewritten old)
  told : ∀ tell, portions.observer = some tell →
    (migration.run .none store).reports = (portions.dueAt result.rows).map fun count => (count, tell count)

theorem Makes.served {result : Result} (makes : portions.Makes formula directory enabled timeout migration)
    (returned : (migration.run .none store).result = .ok result) (migrated : result.status = .migrated) :
    portions.Served migration store result := by
  have accounted := accounted_of_migrated returned migrated
  refine ⟨accounted.staged, fun tell observed => ?_⟩
  have same : (fun count : Nat => decide (migration.pace.progressEvery ∣ count))
      = fun count : Nat => decide (max 1 portions.progressEvery ∣ (count : Int)) := by
    funext count
    rw [← makes.every, decide_eq_decide]
    exact Int.natCast_dvd_natCast.symm
  rw [accounted.told, reportsUpTo, makes.observer.trans observed, dueAt, ← same]

end Portions

/-- The portions that a migration is done in have no part in how it ends. Two runs that the store does not fail, which
it never does if it holds the new floors, return the same or are refused alike, and leave the same store. If they
migrate, each has staged each row once and made the reports that were due. -/
theorem portions_unobservable {left right : Portions} (fills : 1 ≤ left.batchSize) (also : 1 ≤ right.batchSize)
    (formula : Formula) (directory : Directory) (enabled : Bool) (timeout : Value) (store : Store) :
    ∃ first second, left.migration? formula directory enabled timeout = .ok first ∧
      right.migration? formula directory enabled timeout = .ok second ∧
      (first.Spared store → second.Spared store →
        (first.run .none store).result = (second.run .none store).result ∧
          (first.run .none store).store = (second.run .none store).store) ∧
      (first.Holds store → first.Spared store ∧ second.Spared store) ∧
      (∀ result, (first.run .none store).result = .ok result → result.status = .migrated →
        left.Served first store result) ∧
      ∀ result, (second.run .none store).result = .ok result → result.status = .migrated →
        right.Served second store result := by
  have built : ∃ first, left.migration? formula directory enabled timeout = .ok first :=
    Portions.exists_migration fills
  have others : ∃ second, right.migration? formula directory enabled timeout = .ok second :=
    Portions.exists_migration also
  obtain ⟨first, made⟩ := built
  obtain ⟨second, remade⟩ := others
  have makes := Portions.makes_of_ok made
  have remakes := Portions.makes_of_ok remade
  have twins : Twins first second := makes.twins remakes
  refine ⟨first, second, made, remade, run_of_twins twins, ?_, ?_, ?_⟩
  · intro holds
    exact ⟨spared_of_holds holds, spared_of_holds (holds.of_twins twins)⟩
  · intro result returned migrated
    exact makes.served returned migrated
  · intro result returned migrated
    exact remakes.served returned migrated

/-- Row by row, and no one is told. -/
def Portions.single : Portions := ⟨1, 0, none⟩

/-- Two rows at a time; being told fails. -/
def Portions.paired : Portions := ⟨2, 1, some fun _ => true⟩

/-- Two rows, staged apart or together. -/
theorem portions_unobservable_two :
    let result : Result := ⟨.migrated, 2, 2, some (.describe .hundredEach)⟩
    ∃ first second, Portions.single.migration? .tenEach (.empty "data") true .null = .ok first ∧
      Portions.paired.migration? .tenEach (.empty "data") true .null = .ok second ∧
      (first.run .none hundredStore).result = .ok result ∧ (second.run .none hundredStore).result = .ok result ∧
      Portions.single.Served first hundredStore result ∧
      (second.run .none hundredStore).reports = [(1, true), (2, true)] := by
  intro result
  obtain ⟨first, second, made, remade, same, spared, served, reserved⟩ :=
    @portions_unobservable .single .paired (by decide) (by decide) .tenEach (.empty "data") true .null hundredStore
  obtain ⟨unhurt, sound⟩ := spared (holds_of_memory rfl)
  have returned : (first.run .none hundredStore).result = .ok result := by
    cases made
    rfl
  have again : (second.run .none hundredStore).result = .ok result := (same unhurt sound).1.symm.trans returned
  refine ⟨first, second, made, remade, returned, again, served result returned rfl, ?_⟩
  rw [(reserved result again rfl).told _ rfl]
  rfl

end Migration

end Progression
