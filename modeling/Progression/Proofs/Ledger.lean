import Progression.Proofs.Conveyance

/-!
Calls one after another, none of which anything disturbs, in the service without listeners: what each of them finds, what
it leads to, and what it has to tell. Each record is that of the one change that the call is, from the XP that the call
before it has left.
-/

namespace Progression

/-- A call that begins while a number of other calls wait for it. -/
structure Beginning where
  depth : Nat
  call : Call

/-- What a call was: the XP of its identity before and after it, and what it led to. -/
structure Record where
  depth : Nat
  call : Call
  old : Int
  new : Int
  outcome : Option Outcome

def Beginning.operation (beginning : Beginning) : Operation := { call := beginning.call }

namespace Record

/-- The notices of a call that was answered. -/
def notices (formula : Formula) (record : Record) : List Notice :=
  record.outcome.elim [] (record.call.notices formula record.old record.new)

/-- A call is answered by the XP before it if it is a query, and else by the XP that it was to lead to and led to. -/
def Sound (formula : Formula) (ranks : RankBook) (record : Record) : Prop :=
  match record.call.request with
  | .ask query =>
    record.new = record.old ∧ record.outcome = some (.ok (query.answer formula ranks record.old))
  | .change mutation =>
    record.new = mutation.apply formula record.old ∧ record.outcome = some (.ok (mutation.answer formula record.new))

/-- The last record of those at a depth. -/
def lastAt (depth : Nat) (ledger : List Record) : Option Record :=
  (ledger.filter fun record => record.depth = depth).getLast?

/-- The last record of an identity. -/
def latest (identity : Identity) (ledger : List Record) : Option Record :=
  (ledger.filter fun record => record.call.identity = identity).getLast?

variable {ledger : List Record} {record : Record}

theorem lastAt_concat {depth : Nat} :
    lastAt depth (ledger ++ [record]) = if record.depth = depth then some record else lastAt depth ledger := by
  by_cases same : record.depth = depth <;> simp [lastAt, same]

theorem latest_concat {identity : Identity} :
    latest identity (ledger ++ [record])
      = if record.call.identity = identity then some record else latest identity ledger := by
  by_cases same : record.call.identity = identity <;> simp [latest, same]

theorem exists_latest (member : record ∈ ledger) : ∃ last, latest record.call.identity ledger = some last := by
  have nonempty : ledger.filter (fun other => other.call.identity = record.call.identity) ≠ [] :=
    List.ne_nil_of_mem (List.mem_filter.2 ⟨member, by simp⟩)
  exact ⟨_, List.getLast?_eq_some_getLast nonempty⟩

theorem mem_of_lastAt {depth : Nat} (last : lastAt depth ledger = some record) : record ∈ ledger :=
  List.mem_of_mem_filter (List.mem_of_getLast? last)

end Record

namespace Service

section Ledger

variable {L : Type} [DecidableEq L]

/-- The state after calls one after another. -/
def sequel (service : Service L) (state : State L) (begun : List Beginning) : State L :=
  service.performAll state (begun.map Beginning.operation)

def record (service : Service L) (state : State L) (beginning : Beginning) : Record where
  depth := beginning.depth
  call := beginning.call
  old := state.stored beginning.call.identity
  new := (service.perform {} 5 state beginning.call).1.stored beginning.call.identity
  outcome := (service.perform {} 5 state beginning.call).2

/-- The records of calls one after another. -/
def ledger (service : Service L) : State L → List Beginning → List Record
  | _, [] => []
  | state, first :: rest => service.record state first :: service.ledger (service.sequel state [first]) rest

variable {service : Service L} {state : State L} {begun : List Beginning} {beginning : Beginning}

theorem sequel_concat :
    service.sequel state (begun ++ [beginning])
      = (service.perform {} 5 (service.sequel state begun) beginning.call).1 := by
  rw [sequel, List.map_append]
  exact performAll_append_singleton

theorem ledger_concat :
    service.ledger state (begun ++ [beginning])
      = service.ledger state begun ++ [service.record (service.sequel state begun) beginning] := by
  induction begun generalizing state with
  | nil => rfl
  | cons first rest ih => exact congrArg (service.record state first :: ·) ih

theorem lastAt_concat_record (service : Service L) (state : State L) (begun : List Beginning) (beginning : Beginning) :
    Record.lastAt beginning.depth (service.ledger state (begun ++ [beginning]))
      = some (service.record (service.sequel state begun) beginning) := by
  rw [ledger_concat, Record.lastAt_concat]
  exact if_pos rfl

end Ledger

section Alone

variable {service : Service Empty} {state : State Empty} {call : Call} {identity : Identity}

theorem account_enter_of_free (free : identity ∉ state.locked) {xp : Int} :
    (enter state identity xp).account identity = ⟨some xp, some xp, False⟩ := by
  rw [account_enter_self, eq_false free]

theorem account_perform_other (serves : state.Serves call.identity) (different : identity ≠ call.identity) :
    (service.perform {} 5 state call).1.account identity = state.account identity := by
  cases request : call.request with
  | ask query =>
    rw [perform_ask_unheard serves request]
    dsimp only
    split
    · exact account_remember different
    · rfl
  | change mutation =>
    rw [perform_change_unheard serves request]
    exact account_enter different

theorem account_perform (serves : state.Serves call.identity) {xp : Int}
    (kept : state.account identity = ⟨some xp, some xp, False⟩) :
    ∃ new, (service.perform {} 5 state call).1.account identity = ⟨some new, some new, False⟩ := by
  by_cases own : identity = call.identity
  · subst own
    cases request : call.request with
    | ask query =>
      have known : state.cache.get? call.identity = some xp := congrArg Account.known kept
      rw [perform_ask_unheard serves request]
      simp only [known, reduceCtorEq, if_false]
      exact ⟨xp, kept⟩
    | change mutation =>
      rw [perform_change_unheard serves request]
      exact ⟨_, account_enter_of_free serves.free⟩
  · rw [account_perform_other serves own]
    exact ⟨xp, kept⟩

theorem record_sound {beginning : Beginning} (serves : state.Serves beginning.call.identity) :
    (service.record state beginning).Sound service.formula service.ranks := by
  rw [Record.Sound]
  split
  · rename_i query asks
    have request : beginning.call.request = .ask query := asks
    simp only [record, perform_ask_unheard serves request, and_true]
    split <;> rfl
  · rename_i mutation changes
    have request : beginning.call.request = .change mutation := changes
    simp only [record, perform_change_unheard serves request, stored_enter, and_self]

theorem notices_record {beginning : Beginning} (serves : state.Serves beginning.call.identity) {mutation : Mutation}
    (changes : beginning.call.request = .change mutation) :
    (service.record state beginning).notices service.formula
      = mutation.notices service.formula beginning.call.identity (state.stored beginning.call.identity)
        (mutation.apply service.formula (state.stored beginning.call.identity)) := by
  simp only [Record.notices, record, perform_change_unheard serves changes, stored_enter]
  rw [Option.elim_some, Call.notices_ok changes]

section Runs

variable (settled : state.Settled) (ready : state.store.Ready) (begun : List Beginning)

include settled ready

/-- The run lemma: between calls, nothing disturbs the next one. -/
theorem sequel_settled : (service.sequel state begun).Settled ∧ (service.sequel state begun).store.Ready := by
  induction begun using List.reverseRecOn with
  | nil => exact ⟨settled, ready⟩
  | append_singleton begun beginning ih =>
    obtain ⟨settled, ready⟩ := ih
    rw [sequel_concat]
    refine ⟨settled.perform ?_, ready_perform ready _ _ _⟩
    exact perform_over prompt_of_unheard (settled.serves ready _).free {} le_rfl

theorem sequel_serves (identity : Identity) : (service.sequel state begun).Serves identity := by
  obtain ⟨settled, ready⟩ := sequel_settled settled ready begun
  exact settled.serves ready identity

theorem sound_of_mem_ledger :
    ∀ record ∈ service.ledger state begun, record.Sound service.formula service.ranks := by
  induction begun using List.reverseRecOn with
  | nil => exact fun record member => absurd member List.not_mem_nil
  | append_singleton begun beginning ih =>
    rw [ledger_concat, List.forall_mem_append, List.forall_mem_singleton]
    exact ⟨ih, record_sound (sequel_serves settled ready begun _)⟩

/-- The XP of an identity is what the last call about it has led to. -/
theorem stored_sequel (identity : Identity) :
    (service.sequel state begun).stored identity
      = (Record.latest identity (service.ledger state begun)).elim (state.stored identity) Record.new := by
  induction begun using List.reverseRecOn with
  | nil => rfl
  | append_singleton begun beginning ih =>
    rw [sequel_concat, ledger_concat]
    rw [Record.latest_concat]
    split
    · rename_i own
      have same : beginning.call.identity = identity := own
      subst same
      rfl
    · rename_i own
      have different : identity ≠ beginning.call.identity := Ne.symm own
      have account : (service.perform {} 5 (service.sequel state begun) beginning.call).1.account identity = _ :=
        account_perform_other (sequel_serves settled ready begun beginning.call.identity) different
      rw [← ih]
      exact congrArg Account.stored account

theorem account_sequel {record : Record} (member : record ∈ service.ledger state begun) {mutation : Mutation}
    (changes : record.call.request = .change mutation) :
    ∃ xp, (service.sequel state begun).account record.call.identity = ⟨some xp, some xp, False⟩ := by
  induction begun using List.reverseRecOn with
  | nil => cases member
  | append_singleton begun beginning ih =>
    have serves : (service.sequel state begun).Serves beginning.call.identity := sequel_serves settled ready begun _
    rw [sequel_concat]
    rw [ledger_concat, List.mem_append, List.mem_singleton] at member
    rcases member with earlier | rfl
    · obtain ⟨xp, kept⟩ := ih earlier
      exact account_perform serves kept
    · have request : beginning.call.request = .change mutation := changes
      rw [perform_change_unheard serves request]
      exact ⟨_, account_enter_of_free serves.free⟩

/-- What a call has changed is known and stored as the last call about that identity has left it. -/
theorem account_latest {record : Record} (member : record ∈ service.ledger state begun) {mutation : Mutation}
    (changes : record.call.request = .change mutation) :
    ∃ last, Record.latest record.call.identity (service.ledger state begun) = some last ∧
      (service.sequel state begun).account record.call.identity = ⟨some last.new, some last.new, False⟩ := by
  obtain ⟨xp, kept⟩ : ∃ xp, (service.sequel state begun).account record.call.identity = ⟨some xp, some xp, False⟩ :=
    account_sequel settled ready begun member changes
  obtain ⟨last, same⟩ := Record.exists_latest member
  have stored : (service.sequel state begun).stored record.call.identity = last.new := by
    rw [stored_sequel settled ready begun, same]
    rfl
  have stored_xp : (service.sequel state begun).stored record.call.identity = xp := congrArg Account.stored kept
  refine ⟨last, same, ?_⟩
  rw [kept, ← stored_xp, stored]

end Runs

end Alone

end Service

end Progression
