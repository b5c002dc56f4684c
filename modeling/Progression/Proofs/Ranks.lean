import Mathlib.Data.List.Nodup
import Progression.Proofs.Outcome
import Progression.Rank

namespace Progression

/-- Of the given ranks that fit, a rank begins at the lowest level, and stands before those that begin there too. -/
def Rank.Foremost (fits : Rank → Bool) (ranks : List Rank) (rank : Rank) : Prop :=
  ∃ before after, ranks = before ++ rank :: after ∧ fits rank = true ∧
    (∀ other ∈ before, fits other = true → rank.minLevel < other.minLevel) ∧
    ∀ other ∈ after, fits other = true → rank.minLevel ≤ other.minLevel

namespace Rank.Foremost

variable {fits : Rank → Bool} {ranks : List Rank} {rank other : Rank}

theorem mem (foremost : Foremost fits ranks rank) : rank ∈ ranks ∧ fits rank = true := by
  obtain ⟨before, after, rfl, own, -, -⟩ := foremost
  exact ⟨by simp, own⟩

/-- A rank that begins later, or that does not fit, comes to stand before. -/
theorem cons (foremost : Foremost fits ranks rank) (passed : fits other = true → rank.minLevel < other.minLevel) :
    Foremost fits (other :: ranks) rank := by
  obtain ⟨before, after, rfl, own, earlier, later⟩ := foremost
  refine ⟨other :: before, after, rfl, own, fun rival member => ?_, later⟩
  rcases List.mem_cons.1 member with rfl | member
  · exact passed
  · exact earlier rival member

theorem unique (left : Foremost fits ranks rank) (right : Foremost fits ranks other) : rank = other := by
  obtain ⟨before, after, rfl, own, earlier, later⟩ := left
  obtain ⟨others, rest, same, fit, sooner, next⟩ := right
  rcases List.append_eq_append_iff.1 same with ⟨between, rfl, tail⟩ | ⟨between, rfl, tail⟩
  · cases between with
    | nil => exact (List.cons.inj tail).1
    | cons head between =>
      obtain ⟨rfl, rfl⟩ := List.cons.inj tail
      have below := sooner rank (by simp) own
      have above := later other (by simp) fit
      omega
  · cases between with
    | nil => exact (List.cons.inj tail).1.symm
    | cons head between =>
      obtain ⟨rfl, rfl⟩ := List.cons.inj tail
      have below := earlier other (by simp) fit
      have above := next rank (by simp) own
      omega

end Rank.Foremost

namespace RankBook

open Rank (Foremost)

variable {fits : Rank → Bool} {ranks others : List Rank} {rank : Rank}

theorem mem_arrange : rank ∈ arrange ranks ↔ rank ∈ ranks := List.mem_mergeSort

/-- A rank that comes to stand before others is arranged behind those that begin before it, and before the rest. -/
theorem arrange_cons (rank : Rank) (ranks : List Rank) :
    ∃ earlier later, arrange (rank :: ranks) = earlier ++ rank :: later ∧ arrange ranks = earlier ++ later ∧
      ∀ other ∈ earlier, other.minLevel < rank.minLevel := by
  obtain ⟨earlier, later, whole, rest, below⟩ := @List.mergeSort_cons Rank (fun a b => decide (a.minLevel ≤ b.minLevel))
    (by intro a b c; simp only [decide_eq_true_eq]; omega)
    (by intro a b; simp only [Bool.or_eq_true, decide_eq_true_eq]; omega) rank ranks
  exact ⟨earlier, later, whole, rest, fun other member => by simpa using below other member⟩

/-- The first rank that fits, of the arranged ones, is the foremost of the given ones. -/
theorem foremost_of_find? (found : (arrange ranks).find? fits = some rank) : Foremost fits ranks rank := by
  induction ranks with
  | nil => simp [arrange] at found
  | cons head ranks ih =>
    obtain ⟨earlier, later, whole, rest, below⟩ := arrange_cons head ranks
    rw [whole, List.find?_append] at found
    rw [rest, List.find?_append] at ih
    cases sooner : earlier.find? fits with
    | some other =>
      rw [sooner] at found ih
      cases found
      exact (ih rfl).cons fun _ => below rank (List.mem_of_find?_eq_some sooner)
    | none =>
      rw [sooner, Option.none_or] at found ih
      by_cases own : fits head = true
      · rw [List.find?_cons_of_pos own] at found
        cases found
        -- What fits besides is arranged behind the head, and so begins with it or later.
        have ordered := ordered_arrange (rank :: ranks)
        rw [whole, List.pairwise_append, List.pairwise_cons] at ordered
        refine ⟨[], ranks, rfl, own, by simp, fun other member fit => ?_⟩
        rcases List.mem_append.1 (rest ▸ mem_arrange.2 member) with before | after
        · exact absurd fit (List.find?_eq_none.1 sooner other before)
        · exact ordered.2.1.1 other after
      · rw [List.find?_cons_of_neg own] at found
        exact (ih found).cons fun fit => absurd fit own

theorem find?_arrange_eq_none : (arrange ranks).find? fits = none ↔ ∀ rank ∈ ranks, ¬ fits rank = true := by
  simp only [List.find?_eq_none, mem_arrange]

theorem find?_arrange_eq_some : (arrange ranks).find? fits = some rank ↔ Foremost fits ranks rank := by
  refine ⟨foremost_of_find?, fun foremost => ?_⟩
  obtain ⟨member, own⟩ := foremost.mem
  cases found : (arrange ranks).find? fits with
  | none => exact absurd own (find?_arrange_eq_none.1 found rank member)
  | some other => rw [foremost.unique (foremost_of_find? found)]

theorem arrange_of_perm (shuffled : others.Perm ranks) (apart : (ranks.map Rank.minLevel).Nodup) :
    arrange others = arrange ranks := by
  have same : (arrange others).Perm (arrange ranks) :=
    ((List.mergeSort_perm _ _).trans shuffled).trans (List.mergeSort_perm _ _).symm
  refine same.eq_of_pairwise (fun left right _ inside below above => ?_) (ordered_arrange others)
    (ordered_arrange ranks)
  have left_given : left ∈ ranks := by
    rename_i member
    exact shuffled.mem_iff.1 (mem_arrange.1 member)
  exact List.inj_on_of_nodup_map apart left_given (mem_arrange.1 inside) (Int.le_antisymm below above)

theorem make?_eq_error {fault : RankFault} :
    make? ranks = .error fault ↔ Foremost (fun rank => decide (rank.maxLevel < rank.minLevel)) ranks fault.rank := by
  rw [← find?_arrange_eq_some, make?]
  split
  · rename_i rank found
    rw [found, Except.error.injEq, Option.some.injEq]
    exact ⟨fun same => same ▸ rfl, fun same => same ▸ rfl⟩
  · rename_i found
    simp [found]

theorem make?_eq_ok {book : RankBook} :
    make? ranks = .ok book ↔ (∀ rank ∈ ranks, rank.minLevel ≤ rank.maxLevel) ∧ book.ranks = arrange ranks := by
  obtain ⟨listed, ordered, proper⟩ := book
  rw [make?]
  split
  · rename_i rank found
    obtain ⟨member, improper⟩ := (find?_arrange_eq_some.1 found).mem
    simp only [reduceCtorEq, false_iff, not_and]
    intro fine
    have fits := fine rank member
    simp only [decide_eq_true_eq] at improper
    omega
  · rename_i found
    have fine : ∀ rank ∈ ranks, rank.minLevel ≤ rank.maxLevel := by simpa using find?_arrange_eq_none.1 found
    simp only [Except.ok.injEq, RankBook.mk.injEq]
    exact ⟨fun same => ⟨fine, same.symm⟩, fun same => same.2.symm⟩

/-- Ranks make a book unless some range ends before it begins, and then the foremost of such ranks is named. A level has
no rank just if no range holds it, and else the foremost of those whose ranges do. In which order the ranks are given
does not matter, as long as no two of them begin together. -/
theorem rank_is_foremost (ranks : List Rank) :
    ((∃ fault, make? ranks = .error fault) ↔ ∃ rank ∈ ranks, rank.maxLevel < rank.minLevel) ∧
    (∀ fault, make? ranks = .error fault →
      Foremost (fun rank => decide (rank.maxLevel < rank.minLevel)) ranks fault.rank) ∧
    (∀ book, make? ranks = .ok book → ∀ level,
      (book.rankForLevel level = none ↔ ¬ ∃ rank ∈ ranks, rank.minLevel ≤ level ∧ level ≤ rank.maxLevel) ∧
      ∀ rank, book.rankForLevel level = some rank ↔ Foremost (fun rank => rank.contains level) ranks rank) ∧
    ∀ others, others.Perm ranks → (ranks.map Rank.minLevel).Nodup → make? others = make? ranks := by
  refine ⟨?_, fun fault => make?_eq_error.1, fun book made level => ?_, fun others shuffled apart => ?_⟩
  · constructor
    · rintro ⟨fault, failed⟩
      obtain ⟨member, improper⟩ := (make?_eq_error.1 failed).mem
      exact ⟨fault.rank, member, of_decide_eq_true improper⟩
    · rintro ⟨rank, member, improper⟩
      cases outcome : make? ranks with
      | error fault => exact ⟨fault, rfl⟩
      | ok book =>
        have fits := (make?_eq_ok.1 outcome).1 rank member
        omega
  · rw [rankForLevel, (make?_eq_ok.1 made).2]
    exact ⟨find?_arrange_eq_none.trans (by simp [Rank.contains]), fun rank => find?_arrange_eq_some⟩
  · have same : arrange others = arrange ranks := arrange_of_perm shuffled apart
    cases outcome : make? ranks with
    | error fault =>
      rwa [make?_eq_error, ← find?_arrange_eq_some, same, find?_arrange_eq_some, ← make?_eq_error]
    | ok book =>
      obtain ⟨fine, listed⟩ := make?_eq_ok.1 outcome
      exact make?_eq_ok.2 ⟨fun rank member => fine rank (shuffled.mem_iff.1 member), listed.trans same.symm⟩

/-- Three ranks with ranges that overlap; two of them begin together. -/
def bronze : Rank := ⟨"bronze", "Bronze", 1, 10⟩

def silver : Rank := ⟨"silver", "Silver", 5, 20⟩

def gold : Rank := ⟨"gold", "Gold", 5, 30⟩

/-- Level 15 is in two ranges that begin at level 5, and has the rank that was given first. Bronze and gold may change
places. -/
theorem rank_is_foremost_overlapping :
    (∃ book, make? [silver, bronze, gold] = .ok book ∧ book.rankForLevel 15 = some silver) ∧
      make? [gold, bronze] = make? [bronze, gold] := by
  obtain ⟨fails, -, looked_up, -⟩ := rank_is_foremost [silver, bronze, gold]
  refine ⟨?_, (rank_is_foremost [bronze, gold]).2.2.2 _ (List.Perm.swap ..) (by decide)⟩
  cases outcome : make? [silver, bronze, gold] with
  | error fault => exact absurd (fails.1 ⟨fault, outcome⟩) (by decide)
  | ok book =>
    refine ⟨book, rfl, ((looked_up book outcome 15).2 silver).2 ⟨[], [bronze, gold], rfl, rfl, by simp, ?_⟩⟩
    decide

end RankBook

end Progression
