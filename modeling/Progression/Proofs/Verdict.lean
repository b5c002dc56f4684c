import Progression.Proofs.Completion

namespace Progression

namespace Formula

variable {formula : Formula} {level : Nat} {xp : Int}

/-- Whether a level can be had under a formula by XP of which it is the level: up to the top, and only at the top if
levels cost nothing. -/
def Offers (formula : Formula) (level : Nat) : Prop :=
  if formula.isFree then level = formula.maxLevel else level ≤ formula.maxLevel

instance : Decidable (formula.Offers level) :=
  inferInstanceAs (Decidable (if formula.isFree then level = formula.maxLevel else level ≤ formula.maxLevel))

theorem levelForXp_of_isFree (free : formula.isFree = true) (enough : 0 ≤ xp) :
    formula.levelForXp xp = formula.maxLevel := by
  cases formula with
  | linear formula =>
    have costless : formula.xpPerLevel = 0 := by simpa [isFree] using free
    simp only [levelForXp, maxLevel, Linear.levelForXp]
    rw [if_neg (not_lt.2 enough), if_pos costless]
  | exponential | table | custom => cases free

/-- Of the levels that there can be, those on offer are the ones whose floor leads back to them. -/
theorem levelForXp_xpForLevel_eq_iff (first : 1 ≤ level) :
    formula.levelForXp (formula.xpForLevel level) = level ↔ formula.Offers level := by
  rw [Offers]
  by_cases free : formula.isFree = true
  · rw [if_pos free, levelForXp_of_isFree free formula.xpForLevel_nonneg]
    exact eq_comm
  · rw [if_neg free]
    constructor
    · intro back
      rw [← back]
      exact formula.levelForXp_le_maxLevel
    · intro last
      have back : (formula.levelForXp (formula.xpForLevel level) : Int) = level :=
        formula.levelForXp_xpForLevel (by simpa using free) (by exact_mod_cast first) (by exact_mod_cast last)
      exact_mod_cast back

end Formula

namespace Migration

variable {migration : Migration} {store : Store} {previous : Descriptor} {old : Formula}

theorem preserves_iff {xp : Int} :
    migration.Preserves (old.levelForXp xp) ↔ migration.formula.Offers (old.levelForXp xp) :=
  Formula.levelForXp_xpForLevel_eq_iff old.levelForXp_pos

/-- The first row, as they are streamed, whose level the new formula does not offer. -/
def firstLost? (migration : Migration) (old : Formula) (store : Store) : Option (Identity × Int) :=
  store.rows.pairs.find? fun row => ¬ migration.formula.Offers (old.levelForXp row.2)

namespace Rewrite

variable {rewrite : Rewrite} {done rest : List (Identity × Int)} {row : Identity × Int}

theorem addAll_append {mishaps : Mishaps} {next : Rewrite} {rows : List (Identity × Int)}
    (success : rewrite.addAll migration old mishaps rows = (next, none)) :
    rewrite.addAll migration old mishaps (rows ++ rest) = next.addAll migration old mishaps rest := by
  induction rows generalizing rewrite with
  | nil =>
    cases success
    rfl
  | cons row later ih =>
    rw [addAll] at success
    rw [List.cons_append, addAll]
    cases added : rewrite.add migration old mishaps row with
    | error fault =>
      rw [added] at success
      cases success
    | ok extended =>
      rw [added] at success
      exact ih success

theorem Within.targetOf_lost (inside : Within migration old store done rewrite) {level : Nat}
    (lost : ¬ migration.Preserves level) :
    rewrite.targetOf migration level
      = .error (.notPreserved level migration.formula.kind migration.formula.maxLevel) := by
  rw [Rewrite.targetOf]
  split
  · rename_i floor found
    exact absurd (inside.progress.known level floor found).2 lost
  · exact if_neg lost

theorem Within.add_lost (inside : Within migration old store done rewrite)
    (lost : ¬ migration.Preserves (old.levelForXp row.2)) :
    rewrite.add migration old .none row
      = .error (.notPreserved (old.levelForXp row.2) migration.formula.kind migration.formula.maxLevel) := by
  have guarded : (Mishaps.none.guard (.stream rewrite.processed)).mapError (Fault.ofStore migration) = .ok () := rfl
  simp only [Rewrite.add, guarded, inside.targetOf_lost lost, bind, Except.bind]

theorem Within.addAll_lost (inside : Within migration old store done rewrite)
    (lost : ¬ migration.Preserves (old.levelForXp row.2)) :
    rewrite.addAll migration old .none (row :: rest)
      = (rewrite, some (.notPreserved (old.levelForXp row.2) migration.formula.kind migration.formula.maxLevel)) := by
  rw [Rewrite.addAll, inside.add_lost lost]

end Rewrite

theorem steps_finished {mishaps : Mishaps} {rows count : Nat} {shared : Shared} {result : Except Fault Result}
    {reports : List (Nat × Bool)} :
    steps migration mishaps rows count (shared, .finished result reports) = (shared, .finished result reports) := by
  induction count with
  | zero => rfl
  | succ count ih => exact ih

/-- A migration that is wanted and due, and that nothing befalls, is refused for the first row whose level is not
preserved. -/
theorem run_of_lost (due : migration.Due store previous old) (wanted : migration.pace.enabled = true)
    (inTime : migration.pace.expired = false) {before rest : List (Identity × Int)} {row : Identity × Int}
    (all : store.rows.pairs = before ++ row :: rest)
    (preserved : ∀ earlier ∈ before, migration.Preserves (old.levelForXp earlier.2))
    (held : ∀ earlier ∈ before, store.kind.holds (migration.rewritten old earlier).2 = true)
    (lost : ¬ migration.Preserves (old.levelForXp row.2)) :
    (migration.run .none store).result
      = .error (.notPreserved (old.levelForXp row.2) migration.formula.kind migration.formula.maxLevel) := by
  obtain ⟨ready, -⟩ := Store.readDescriptor_eq_ok.1 due.stored
  have start : Rewrite.Within migration old store [] { scope := store.scope } := within_start ready
  obtain ⟨next, success⟩ := start.exists_addAll all preserved held
  have inside := start.addAll success
  have stops : ({ scope := store.scope } : Rewrite).addAll migration old .none store.rows.pairs
      = (next, some (.notPreserved (old.levelForXp row.2) migration.formula.kind migration.formula.maxLevel)) := by
    rw [all, Rewrite.addAll_append success]
    exact inside.addAll_lost lost
  have refused : step migration .none store.rows.size ⟨store, true⟩
      (.rewriting previous old store.rows.pairs { scope := store.scope })
        = (⟨store, false⟩, give (.notPreserved (old.levelForXp row.2) migration.formula.kind
            migration.formula.maxLevel) next.reports) := by
    obtain ⟨head, tail, nonempty⟩ : ∃ head tail, store.rows.pairs = head :: tail :=
      List.exists_cons_of_ne_nil (by simp [all])
    have taken : (head :: tail).take store.rows.size = head :: tail :=
      List.take_of_length_le (by rw [← nonempty]; exact le_rfl)
    rw [nonempty] at stops ⊢
    simp only [step, taken, stops]
  have final : finalState migration .none store
      = (⟨store, false⟩, give (.notPreserved (old.levelForXp row.2) migration.formula.kind
          migration.formula.maxLevel) next.reports) := by
    rw [finalState, steps_rewriting due wanted inTime, steps, refused]
    exact steps_finished
  simp only [run, final]
  rfl

/-- A migration that is wanted and due, and that neither the store nor the time holds up, rewrites the rows just if the
new formula offers the level of each: each is at most the top or, if levels cost nothing, is the top. Otherwise it is
refused, and names the level of the first row, as they are streamed, of which this does not hold. -/
theorem migrates_iff_levels_offered (due : migration.Due store previous old)
    (wanted : migration.pace.enabled = true) (inTime : migration.pace.expired = false)
    (held : ∀ row ∈ store.rows.pairs, migration.formula.Offers (old.levelForXp row.2) →
      store.kind.holds (migration.formula.xpForLevel (old.levelForXp row.2)) = true) :
    ((∃ result, (migration.run .none store).result = .ok result ∧ result.status = .migrated) ↔
      ∀ row ∈ store.rows.pairs, migration.formula.Offers (old.levelForXp row.2)) ∧
    ∀ row, migration.firstLost? old store = some row →
      (migration.run .none store).result
        = .error (.notPreserved (old.levelForXp row.2) migration.formula.kind migration.formula.maxLevel) := by
  have refused (row : Identity × Int) (found : migration.firstLost? old store = some row) :
      (migration.run .none store).result
        = .error (.notPreserved (old.levelForXp row.2) migration.formula.kind migration.formula.maxLevel) := by
    obtain ⟨lost, before, rest, all, earlier⟩ := List.find?_eq_some_iff_append.1 found
    have offered : ∀ row ∈ before, migration.formula.Offers (old.levelForXp row.2) := by
      intro row member
      simpa using earlier row member
    refine run_of_lost due wanted inTime all (fun row member => preserves_iff.2 (offered row member)) ?_ ?_
    · intro row member
      exact held row (all ▸ List.mem_append_left _ member) (offered row member)
    · rw [preserves_iff]
      simpa using lost
  refine ⟨?_, refused⟩
  constructor
  · rintro ⟨result, returned, migrated⟩
    by_contra some_lost
    have found : (migration.firstLost? old store).isSome := by
      rw [firstLost?, List.find?_isSome]
      simpa using some_lost
    obtain ⟨row, first⟩ := Option.isSome_iff_exists.1 found
    cases returned.symm.trans (refused row first)
  · intro offered
    have fit : migration.Fit old store :=
      ⟨fun row member => preserves_iff.2 (offered row member), fun row member => held row member (offered row member)⟩
    exact ⟨_, (run_of_fit due wanted inTime fit).1, rfl⟩

/-- A migration to five levels. -/
def toFiveLevels : Migration := { toTenEach with formula := .linear ⟨10, 5, by decide, by decide⟩ }

/-- Of two rows, one is at the sixth level. -/
theorem migrates_iff_levels_offered_five :
    toFiveLevels.firstLost? .hundredEach hundredStore = some ("ann", 500) ∧
      (toFiveLevels.run .none hundredStore).result = .error (.notPreserved 6 .linear 5) := by
  have due : toFiveLevels.Due hundredStore (.describe .hundredEach) .hundredEach := ⟨rfl, by decide +kernel, rfl⟩
  have lost : toFiveLevels.firstLost? .hundredEach hundredStore = some ("ann", 500) := by decide +kernel
  obtain ⟨-, refused⟩ := migrates_iff_levels_offered due rfl rfl fun _ _ _ => rfl
  exact ⟨lost, refused _ lost⟩

end Migration

end Progression
