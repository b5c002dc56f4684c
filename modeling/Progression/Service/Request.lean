import Progression.Formula.Basic
import Progression.Notice
import Progression.Rank
import Progression.Store.Fault

namespace Progression

/-- What is asked without changing anything. -/
inductive Query where
  | xp
  | level
  | rank
  deriving DecidableEq, Repr

inductive Mutation where
  | addXp (amount : Int)
  | removeXp (amount : Int)
  | setXp (xp : Int)
  | addLevel (levels : Int)
  | removeLevel (levels : Int)
  | setLevel (level : Int)
  deriving DecidableEq, Repr

inductive Request where
  | ask (query : Query)
  | change (mutation : Mutation)
  deriving DecidableEq, Repr

/-- A request about an identity. -/
structure Call where
  identity : Identity
  request : Request
  deriving DecidableEq, Repr

inductive Answer where
  | number (n : Int)
  | rank (rank : Option Rank)
  deriving DecidableEq, Repr

/-- What a call leads to. -/
abbrev Outcome := Except StoreFault Answer

/-- The answer about an identity with an amount of XP. -/
def Query.answer (formula : Formula) (ranks : RankBook) (xp : Int) : Query → Answer
  | .xp => .number xp
  | .level => .number (formula.levelForXp xp)
  | .rank => .rank (ranks.rankForLevel (formula.levelForXp xp))

namespace Mutation

/-- The floor of the level nearest to a given one, of those from zero to the top. -/
def floorNear (formula : Formula) (level : Int) : Int :=
  formula.xpForLevel (min (max level 0) formula.maxLevel)

/-- The XP that a change aims at. -/
def target (formula : Formula) (xp : Int) : Mutation → Int
  | addXp amount => xp + amount
  | removeXp amount => xp - amount
  | setXp wanted => wanted
  | addLevel levels => floorNear formula (formula.levelForXp xp + levels)
  | removeLevel levels => floorNear formula (formula.levelForXp xp - levels)
  | setLevel level => floorNear formula level

/-- The XP after a change. -/
def apply (formula : Formula) (mutation : Mutation) (xp : Int) : Int := clampXp (mutation.target formula xp)

/-- The notices of a change, in the order in which they are told. Adding XP tells of a gain and removing XP
of a loss, whatever the amount; then adding tells only of a risen level and removing only of a fallen one. -/
def notices (formula : Formula) (identity : Identity) (old new : Int) : Mutation → List Notice
  | addXp amount =>
    .gained ⟨identity, amount, old, new⟩ ::
      Notice.ofRise identity (formula.levelForXp old) (formula.levelForXp new)
  | removeXp amount =>
    .lost ⟨identity, amount, old, new⟩ ::
      Notice.ofFall identity (formula.levelForXp old) (formula.levelForXp new)
  | _ =>
    Notice.ofRise identity (formula.levelForXp old) (formula.levelForXp new)
      ++ Notice.ofFall identity (formula.levelForXp old) (formula.levelForXp new)

/-- The answer to a change: the XP or the level after it, whichever it was about. -/
def answer (formula : Formula) (new : Int) : Mutation → Answer
  | addXp _ | removeXp _ | setXp _ => .number new
  | addLevel _ | removeLevel _ | setLevel _ => .number (formula.levelForXp new)

end Mutation

end Progression
