import Progression.Proofs.Ledger

/-!
Calls that listeners make while they are told of a change. A call waits for no lock of one that encloses it, and begins
when the changes of all those are saved and known; the books are those of all calls one after another, in the order in
which they began. What each call is answered and what is told of it are its own, whatever was called meanwhile.
-/

namespace Progression

variable {L : Type}

/-- The call that a task is about to begin. -/
def Task.beginning? (task : Task L) : Option Beginning :=
  match task.phase with
  | .fresh => some ⟨task.waiting.length, task.call⟩
  | _ => none

theorem Task.beginning?_eq_none {task : Task L} (begun : task.phase ≠ .fresh) : task.beginning? = none := by
  unfold Task.beginning?
  split
  · contradiction
  · rfl

/-- Which call tells listeners in the next step of a task, and how many others wait for it. -/
def Task.teller? (task : Task L) : Option Beginning :=
  match task.phase, task.waiting with
  | .saved _ _, waiting | .telling _ _ _, waiting => some ⟨waiting.length, task.call⟩
  | .finished _, outer :: waiting => some ⟨waiting.length, outer.call⟩
  | _, _ => none

/-- Whether a record is that of a call with an answer which has some notices still to tell, by what it has to tell. -/
structure Record.Tells (formula : Formula) (call : Call) (answer : Answer) (left : List Notice) (record : Record) :
    Prop where
  call : record.call = call
  outcome : record.outcome = some (.ok answer)
  left : left <:+ record.notices formula

/-- Only changes have something to tell. -/
theorem Record.Tells.changes {formula : Formula} {call : Call} {answer : Answer} {notice : Notice} {rest : List Notice}
    {record : Record} (tells : record.Tells formula call answer (notice :: rest)) :
    ∃ mutation, record.call.request = .change mutation := by
  have told : notice ∈ record.notices formula := tells.left.subset (List.mem_cons_self ..)
  rw [Record.notices, tells.outcome] at told
  cases request : record.call.request with
  | ask query => simp [Call.notices, request] at told
  | change mutation => exact ⟨mutation, rfl⟩

namespace Service

section Left

variable [DecidableEq L] {service : Service L} {state : State L}

theorem tell_suffix {notices : List Notice} {stop : Stop L} {telling : Telling L}
    (stopped : (tell service state notices).2 = some (stop, telling)) :
    telling.notice :: telling.notices <:+ notices := by
  induction notices generalizing state with
  | nil => cases stopped
  | cons notice rest ih =>
    rw [tell] at stopped
    split at stopped
    · exact (ih stopped).trans (List.suffix_cons notice rest)
    · cases stopped
      exact List.suffix_rfl

theorem goOn_suffix {reaction : Reaction L} {telling later : Telling L} {stop : Stop L}
    (stopped : (goOn service state reaction telling).2 = some (stop, later)) :
    later.notice :: later.notices <:+ telling.notice :: telling.notices := by
  rw [goOn] at stopped
  split at stopped
  · cases stopped
    exact List.suffix_rfl
  · split at stopped
    · cases stopped
      exact List.suffix_rfl
    · exact (tell_suffix stopped).trans (List.suffix_cons _ _)

/-- Whether nothing was told between two states but some notices. -/
def Delivers (notices : List Notice) (before after : State L) : Prop :=
  ∃ told, after.deliveries = before.deliveries ++ told ∧ ∀ delivery ∈ told, delivery.notice ∈ notices

omit [DecidableEq L] in
theorem Delivers.refl (notices : List Notice) (state : State L) : Delivers notices state state :=
  ⟨[], (List.append_nil _).symm, fun _ member => absurd member List.not_mem_nil⟩

omit [DecidableEq L] in
theorem Delivers.trans {notices : List Notice} {first second third : State L} (left : Delivers notices first second)
    (right : Delivers notices second third) : Delivers notices first third := by
  obtain ⟨told, delivered, among⟩ := left
  obtain ⟨later, delivered_later, among_later⟩ := right
  refine ⟨told ++ later, by rw [delivered_later, delivered, List.append_assoc], ?_⟩
  exact List.forall_mem_append.2 ⟨among, among_later⟩

theorem react_delivers {notices : List Notice} {notice : Notice} (member : notice ∈ notices) (state : State L)
    (listener : L) :
    Delivers notices state (runReaction { state with deliveries := state.deliveries ++ [⟨listener, notice⟩] }
      (service.react state.deliveries listener notice)).1 :=
  ⟨[⟨listener, notice⟩], deliveries_runReaction _ _, List.forall_mem_singleton.2 member⟩

theorem tell_delivers (state : State L) (notices : List Notice) : Delivers notices state (tell service state notices).1 :=
  tell_keeps (Delivers.refl notices) Delivers.trans (fun _ member => react_delivers member) state

theorem goOn_delivers (state : State L) (reaction : Reaction L) (telling : Telling L) :
    Delivers (telling.notice :: telling.notices) state (goOn service state reaction telling).1 :=
  goOn_keeps (Delivers.refl _) Delivers.trans state
    ⟨[], (deliveries_runReaction state reaction).trans (List.append_nil _).symm,
      fun _ member => absurd member List.not_mem_nil⟩
    fun _ member => react_delivers member

end Left

section Begun

variable [DecidableEq L]

/-- The calls that a task begins in its first steps, in order. -/
def begun (service : Service L) (state : State L) (task : Task L) : Nat → List Beginning
  | 0 => []
  | count + 1 => service.begun state task count ++ (service.steps {} count state task).2.beginning?.toList

end Begun

/-- Where a task stands after some steps: between two calls, with the books of all calls that have begun, one after
another; or in the last of them, which nothing disturbs. -/
inductive Stage (service : Service L) (start : State Empty) (begun : List Beginning) (state : State L) (task : Task L) :
    Prop where
  | between (rests : task.phase = .fresh ∨ task.phase.Done)
    (books : state.unheard = service.unheard.sequel start begun)
  | underway (base : State L) (earlier : List Beginning) (books : base.unheard = service.unheard.sequel start earlier)
    (last : begun = earlier ++ [⟨task.waiting.length, task.call⟩])
    (stands : Underway service base task.call state task.phase) (going : task.phase.toGo < 5)

/-- Whether each call of those that wait has its own record, that of the last call which began for as many others. -/
def Recorded (formula : Formula) (ledger : List Record) (waiting : List (Waiting L)) : Prop :=
  ∀ outer below, outer :: below <:+ waiting → ∃ record, Record.lastAt below.length ledger = some record ∧
    record.Tells formula outer.call outer.answer (outer.rest.notice :: outer.rest.notices)

/-- The invariant of a task whose listeners make calls: where it stands, and that each call which is not over has its own
record. -/
structure Nested (service : Service L) (start : State Empty) (begun : List Beginning) (state : State L) (task : Task L) :
    Prop where
  stage : Stage service start begun state task
  enclosing : Recorded service.formula (service.unheard.ledger start begun) task.waiting
  telling : ∀ answer reaction rest, task.phase = .telling answer reaction rest →
    ∃ record, Record.lastAt task.waiting.length (service.unheard.ledger start begun) = some record ∧
      record.Tells service.formula task.call answer (rest.notice :: rest.notices)
  finished : ∀ outcome, task.phase = .finished outcome →
    ∃ record, Record.lastAt task.waiting.length (service.unheard.ledger start begun) = some record ∧
      record.call = task.call ∧ record.outcome = some outcome

section Recorded

variable {formula : Formula} {ledger : List Record} {outer : Waiting L} {waiting : List (Waiting L)}

theorem Recorded.tail (recorded : Recorded formula ledger (outer :: waiting)) : Recorded formula ledger waiting :=
  fun other below inner => recorded other below (inner.trans (List.suffix_cons outer waiting))

theorem Recorded.concat (recorded : Recorded formula ledger waiting) {record : Record}
    (deepest : record.depth = waiting.length) : Recorded formula (ledger ++ [record]) waiting := by
  intro other below inner
  have outside : below.length < waiting.length := inner.length_le
  rw [Record.lastAt_concat, if_neg (by omega)]
  exact recorded other below inner

theorem Recorded.cons {record : Record} (recorded : Recorded formula ledger waiting)
    (own : Record.lastAt waiting.length ledger = some record)
    (tells : record.Tells formula outer.call outer.answer (outer.rest.notice :: outer.rest.notices)) :
    Recorded formula ledger (outer :: waiting) := by
  intro other below inner
  rcases List.suffix_cons_iff.1 inner with first | later
  · cases first
    exact ⟨record, own, tells⟩
  · exact recorded other below later

end Recorded

section Invariant

variable {service : Service L} {start : State Empty} {begun earlier : List Beginning} {state base : State L}
  {task : Task L} {call : Call} {answer : Answer} {waiting : List (Waiting L)}

theorem nested_afterTelling {told : State L × Option (Stop L × Telling L)} {record : Record}
    (books : told.1.unheard = service.unheard.sequel start begun)
    (enclosing : Recorded service.formula (service.unheard.ledger start begun) waiting)
    (own : Record.lastAt waiting.length (service.unheard.ledger start begun) = some record)
    (same : record.call = call) (outcome : record.outcome = some (.ok answer))
    (left : ∀ stop rest, told.2 = some (stop, rest) → rest.notice :: rest.notices <:+ record.notices service.formula) :
    Nested service start begun (afterTelling ⟨call, .fresh, waiting⟩ answer told).1
      (afterTelling ⟨call, .fresh, waiting⟩ answer told).2 := by
  rcases told with ⟨state, _ | ⟨reaction | ⟨asked, resume⟩, rest⟩⟩
  · refine ⟨.between (.inr trivial) books, enclosing, nofun, fun outcome ended => ?_⟩
    cases ended
    exact ⟨record, own, same, ‹_›⟩
  · refine ⟨.between (.inr trivial) books, enclosing, fun _ _ _ tells => ?_, nofun⟩
    cases tells
    exact ⟨record, own, same, outcome, left _ _ rfl⟩
  · exact ⟨.between (.inl rfl) books, enclosing.cons own ⟨same, outcome, left _ _ rfl⟩, nofun, nofun⟩

theorem nested_underway {next : Phase L} (books : base.unheard = service.unheard.sequel start earlier)
    (enclosing : Recorded service.formula (service.unheard.ledger start (earlier ++ [⟨waiting.length, call⟩])) waiting)
    (stands : Underway service base call state next) (going : next.toGo < 5) :
    Nested service start (earlier ++ [⟨waiting.length, call⟩]) state ⟨call, next, waiting⟩ := by
  refine ⟨.underway base earlier books rfl stands going, enclosing, ?_, ?_⟩
  · intro answer reaction rest tells
    have open_still := stands.toGo_le.2
    simp [show next = _ from tells, Phase.toGo] at open_still
  · intro outcome ended
    have open_still := stands.toGo_le.2
    simp [show next = _ from ended, Phase.toGo] at open_still

/-- The last call that has begun has its own record, made out of the books before it. -/
theorem lastAt_of_books (books : base.unheard = service.unheard.sequel start earlier) (beginning : Beginning) :
    Record.lastAt beginning.depth (service.unheard.ledger start (earlier ++ [beginning]))
      = some (service.unheard.record base.unheard beginning) := by
  rw [books]
  exact lastAt_concat_record service.unheard start earlier beginning

variable [DecidableEq L] (settled : start.Settled) (ready : start.store.Ready)

include settled ready

omit [DecidableEq L] in
theorem settled_of_books (books : base.unheard = service.unheard.sequel start earlier) :
    base.Settled ∧ base.store.Ready := by
  obtain ⟨settled, ready⟩ := sequel_settled settled ready earlier
  rw [← books] at settled ready
  exact ⟨State.settled_unheard.1 settled, ready⟩

omit [DecidableEq L] in
theorem serves_of_books (books : base.unheard = service.unheard.sequel start earlier) (identity : Identity) :
    base.Serves identity := by
  obtain ⟨settled, ready⟩ := settled_of_books settled ready books
  exact settled.serves ready identity

/-- What a call comes to that nothing disturbs is what its record says. -/
theorem nested_answered (books : base.unheard = service.unheard.sequel start earlier)
    (enclosing : Recorded service.formula
      (service.unheard.ledger start (earlier ++ [⟨waiting.length, call⟩])) waiting) :
    Nested service start (earlier ++ [⟨waiting.length, call⟩]) (answered service base call waiting).1
      (answered service base call waiting).2 := by
  let record := service.unheard.record base.unheard ⟨waiting.length, call⟩
  have own : Record.lastAt waiting.length (service.unheard.ledger start (earlier ++ [⟨waiting.length, call⟩]))
      = some record := lastAt_of_books books ⟨waiting.length, call⟩
  have serves : base.unheard.Serves call.identity := books ▸ sequel_serves settled ready earlier call.identity
  have after : service.unheard.sequel start (earlier ++ [⟨waiting.length, call⟩])
      = (service.unheard.perform {} 5 base.unheard call).1 := by rw [sequel_concat, ← books]
  have outcome : record.outcome = (service.unheard.perform {} 5 base.unheard call).2 := rfl
  cases request : call.request with
  | ask query =>
    rw [perform_ask_unheard serves request] at after outcome
    simp only [answered, request]
    refine ⟨.between (.inr trivial) ?_, enclosing, by simp, fun result ended => ?_⟩
    · rw [after]
      exact apply_ite State.unheard _ _ _
    · cases ended
      exact ⟨record, own, rfl, outcome⟩
  | change mutation =>
    rw [perform_change_unheard serves request] at after outcome
    simp only [answered, request]
    let new := mutation.apply service.formula (base.stored call.identity)
    let notices := mutation.notices service.formula call.identity (base.stored call.identity) new
    have entered : (tell service (enter base call.identity new) notices).1.unheard
        = enter base.unheard call.identity new := (tell_books _ _).unheard
    have due : record.notices service.formula = notices := notices_record serves request
    refine nested_afterTelling (entered.trans after.symm) enclosing own rfl outcome fun stop rest stopped => ?_
    rw [due]
    exact tell_suffix stopped

/-- The step lemma. -/
theorem Nested.step (nested : Nested service start begun state task) :
    Nested service start (begun ++ task.beginning?.toList) (Service.step service {} state task).1
      (Service.step service {} state task).2 := by
  obtain ⟨call, phase, waiting⟩ := task
  obtain ⟨stage, enclosing, telling, finished⟩ := nested
  rcases stage with ⟨rfl | done, books⟩ | ⟨base, earlier, books, rfl, stands, going⟩
  · have deeper : Recorded service.formula (service.unheard.ledger start (begun ++ [⟨waiting.length, call⟩])) waiting := by
      rw [ledger_concat]
      exact enclosing.concat rfl
    rcases step_fresh (serves_of_books settled ready books _) waiting with ⟨after, next, stepped, later, going⟩ | ends
    · rw [stepped]
      exact nested_underway books deeper later going
    · rw [ends]
      exact nested_answered settled ready books deeper
  · cases phase with
    | telling answer reaction rest =>
      obtain ⟨record, own, tells⟩ := telling answer reaction rest rfl
      have stepped : Service.step service {} state ⟨call, .telling answer reaction rest, waiting⟩
          = afterTelling ⟨call, .fresh, waiting⟩ answer (goOn service state reaction rest) :=
        @afterTelling_phase L ⟨call, .fresh, waiting⟩ _ _ _
      have untouched : (goOn service state reaction rest).1.unheard = state.unheard := (goOn_books ..).unheard
      rw [Task.beginning?_eq_none (by simp), Option.toList_none, List.append_nil, stepped]
      exact nested_afterTelling (untouched.trans books) enclosing own tells.call tells.outcome
        fun _ _ stopped => (goOn_suffix stopped).trans tells.left
    | finished outcome =>
      rw [Task.beginning?_eq_none (by simp), Option.toList_none, List.append_nil]
      cases waiting with
      | nil => exact ⟨.between (.inr trivial) books, enclosing, telling, finished⟩
      | cons outer below =>
        obtain ⟨record, own, tells⟩ := enclosing outer below List.suffix_rfl
        have untouched : (goOn service state (outer.resume outcome) outer.rest).1.unheard = state.unheard :=
          (goOn_books ..).unheard
        exact nested_afterTelling (untouched.trans books) enclosing.tail own tells.call tells.outcome
          fun _ _ stopped => (goOn_suffix stopped).trans tells.left
    | fresh | queued | loading | loaded | saving | saved => simp [Phase.Done] at done
  · have past : phase ≠ .fresh := by
      rintro rfl
      simp [Phase.toGo] at going
    rw [Task.beginning?_eq_none past, Option.toList_none, List.append_nil]
    rcases stands.step (serves_of_books settled ready books _) waiting with ⟨after, next, stepped, later, nearer⟩ | ends
    · rw [stepped]
      exact nested_underway books enclosing later (nearer.trans going)
    · rw [ends]
      exact nested_answered settled ready books enclosing

omit settled ready [DecidableEq L] in
theorem nested_begin (start : State L) (call : Call) : Nested service start.unheard [] start { call } :=
  ⟨.between (.inl rfl) rfl, fun _ _ inner => absurd inner.length_le (by simp), nofun, nofun⟩

omit settled ready in
/-- The run lemma. -/
theorem nested_steps {start : State L} (settled : start.Settled) (ready : start.store.Ready) (call : Call) (count : Nat) :
    Nested service start.unheard (service.begun start { call } count) (steps service {} count start { call }).1
      (steps service {} count start { call }).2 := by
  induction count with
  | zero => exact nested_begin start call
  | succ count ih =>
    have next : steps service {} (count + 1) start { call }
        = step service {} (steps service {} count start { call }).1 (steps service {} count start { call }).2 := by
      rw [steps_add, steps_step]
      rfl
    rw [next]
    exact ih.step (State.settled_unheard.2 settled) ready

omit [DecidableEq L] in
/-- Between calls no lock is taken, and in a call only its own. -/
theorem Nested.locks (nested : Nested service start begun state task) :
    (task.phase ≠ .queued ∧ ∀ identity ∈ state.locked, task.phase.Holds ∧ identity = task.identity) ∧
      (¬ task.phase.Holds → state.Settled ∧ state.unheard = service.unheard.sequel start begun) := by
  rcases nested.stage with ⟨rests, books⟩ | ⟨base, earlier, books, last, stands, going⟩
  · obtain ⟨rested, -⟩ := settled_of_books settled ready books
    refine ⟨⟨?_, by simp [rested.free]⟩, fun _ => ⟨rested, books⟩⟩
    rcases rests with fresh | done
    · simp [fresh]
    · exact fun queued => by simp [queued, Phase.Done] at done
  · obtain ⟨holds, locked⟩ := stands.locked going
    refine ⟨⟨fun queued => by simp [queued, Phase.Holds] at holds, fun identity taken => ⟨holds, ?_⟩⟩, absurd holds⟩
    rw [locked, (settled_of_books settled ready books).1.free, List.mem_singleton] at taken
    exact taken

/-- All that is told in a step is told of the record of the call that tells. -/
theorem Nested.delivers (nested : Nested service start begun state task) :
    ∃ told, (Service.step service {} state task).1.deliveries = state.deliveries ++ told ∧
      ∀ delivery ∈ told, ∃ teller record, task.teller? = some teller ∧
        Record.lastAt teller.depth (service.unheard.ledger start begun) = some record ∧
        record.call = teller.call ∧ delivery.notice ∈ record.notices service.formula := by
  obtain ⟨call, phase, waiting⟩ := task
  obtain ⟨stage, enclosing, telling, finished⟩ := nested
  have of_delivers {notices : List Notice} {after : State L} (delivers : Delivers notices state after) {teller : Beginning}
      {record : Record} (tells : (Task.teller? ⟨call, phase, waiting⟩) = some teller)
      (own : Record.lastAt teller.depth (service.unheard.ledger start begun) = some record)
      (same : record.call = teller.call) (among : notices ⊆ record.notices service.formula) :
      ∃ told, after.deliveries = state.deliveries ++ told ∧ ∀ delivery ∈ told, ∃ teller record,
        (Task.teller? ⟨call, phase, waiting⟩) = some teller ∧
        Record.lastAt teller.depth (service.unheard.ledger start begun) = some record ∧
        record.call = teller.call ∧ delivery.notice ∈ record.notices service.formula := by
    obtain ⟨told, delivered, inside⟩ := delivers
    exact ⟨told, delivered, fun delivery member => ⟨teller, record, tells, own, same, among (inside delivery member)⟩⟩
  rcases phase.open_or_saved_or_done with opened | ⟨old, new, rfl⟩ | done
  · have moved : Moved service state ⟨call, phase, waiting⟩ _ _ := moved_step service {}
    exact ⟨[], (moved.unheard opened).2.1.trans (List.append_nil _).symm, fun _ member => absurd member List.not_mem_nil⟩
  · rcases stage with ⟨rests, -⟩ | ⟨base, earlier, books, rfl, stands, -⟩
    · simp [Phase.Done] at rests
    · have here : Underway service base call state (.saved old new) := stands
      clear stands
      cases here with
      | @saved mutation _ _ changes new_eq _ _ =>
        subst new_eq
        have serves : base.unheard.Serves call.identity := books ▸ sequel_serves settled ready earlier call.identity
        have own := lastAt_of_books books ⟨waiting.length, call⟩
        have due : (service.unheard.record base.unheard ⟨waiting.length, call⟩).notices service.formula = _ :=
          notices_record serves changes
        simp only [Service.step, announce, changes]
        rw [(afterTelling_continued _ _ _).1]
        exact of_delivers (tell_delivers _ _) rfl own rfl (due ▸ List.Subset.refl _)
  · cases phase with
    | telling answer reaction rest =>
      obtain ⟨record, own, tells⟩ := telling answer reaction rest rfl
      simp only [Service.step]
      rw [(afterTelling_continued _ _ _).1]
      exact of_delivers (goOn_delivers state reaction rest) rfl own tells.call tells.left.subset
    | finished outcome =>
      cases waiting with
      | nil => exact ⟨[], (List.append_nil _).symm, fun _ member => absurd member List.not_mem_nil⟩
      | cons outer below =>
        obtain ⟨record, own, tells⟩ := enclosing outer below List.suffix_rfl
        simp only [Service.step]
        rw [(afterTelling_continued _ _ _).1]
        exact of_delivers (goOn_delivers state (outer.resume outcome) outer.rest) rfl own tells.call tells.left.subset
    | fresh | queued | loading | loaded | saving | saved => simp [Phase.Done] at done

end Invariant

/-- A listener that adds XP to two identities when the level of one of them rises. -/
def generous : Service Unit where
  formula := quiet.formula
  ranks := quiet.ranks
  react
    | _, _, .rose change =>
      if change.identity = "a" then
        .call ⟨"a", .change (.addXp 30)⟩ fun _ => .call ⟨"b", .change (.addXp 5)⟩ fun _ => .finish
      else .finish
    | _, _, _ => .finish

/-- A service that knows nothing yet, with a listener of gains and of changed levels. -/
def heededStart : State Unit :=
  { quietStart with channels := { levelUp := ⟨[()]⟩, levelDown := ⟨[()]⟩, xpGain := ⟨[()]⟩ } }

end Service

end Progression
