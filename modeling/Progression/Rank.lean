import Progression.Settings.Basic

namespace Progression

structure Rank where
  id : String
  name : String
  minLevel : Int
  maxLevel : Int
  deriving DecidableEq, Repr

def Rank.contains (rank : Rank) (level : Int) : Bool := rank.minLevel ≤ level && level ≤ rank.maxLevel

/-- A rank whose range ends before it begins. -/
structure RankFault where
  rank : Rank

def RankFault.message (fault : RankFault) : String :=
  "Rank '" ++ fault.rank.id ++ "' has min_level " ++ toString fault.rank.minLevel ++ " above max_level "
    ++ toString fault.rank.maxLevel

/-- Ranks in the order in which their ranges begin. -/
structure RankBook where
  ranks : List Rank
  ordered : ranks.Pairwise fun a b => a.minLevel ≤ b.minLevel
  proper : ∀ rank ∈ ranks, rank.minLevel ≤ rank.maxLevel

namespace RankBook

/-- Ranks in the order in which their ranges begin, equal ones as they were given. -/
def arrange (ranks : List Rank) : List Rank := ranks.mergeSort fun a b => a.minLevel ≤ b.minLevel

theorem ordered_arrange (ranks : List Rank) :
    (arrange ranks).Pairwise fun a b => a.minLevel ≤ b.minLevel := by
  have sorted := @List.pairwise_mergeSort Rank (fun a b => decide (a.minLevel ≤ b.minLevel))
    (by intro a b c; simp only [decide_eq_true_eq]; omega)
    (by intro a b; simp only [Bool.or_eq_true, decide_eq_true_eq]; omega) ranks
  simpa [arrange] using sorted

/-- The book of given ranks, if every range is proper. -/
def make? (ranks : List Rank) : Except RankFault RankBook :=
  match found : (arrange ranks).find? fun rank => decide (rank.maxLevel < rank.minLevel) with
  | some rank => .error ⟨rank⟩
  | none => .ok {
      ranks := arrange ranks
      ordered := ordered_arrange ranks
      proper := fun rank member => by
        have fits := List.find?_eq_none.1 found rank member
        simpa using fits }

def empty : RankBook := ⟨[], .nil, by simp⟩

def ofSettings (settings : List Settings.RankSettings) : Except RankFault RankBook :=
  make? (settings.map fun rank => ⟨rank.id, rank.name, rank.minLevel, rank.maxLevel⟩)

def size (book : RankBook) : Nat := book.ranks.length

/-- The rank of a level. -/
def rankForLevel (book : RankBook) (level : Int) : Option Rank :=
  book.ranks.find? fun rank => rank.contains level

end RankBook

end Progression
