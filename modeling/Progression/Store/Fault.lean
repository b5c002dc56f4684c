import Progression.Fault
import Progression.Notice
import Progression.Text.Quoted

namespace Progression

open Text

inductive StoreFault where
  | closed
  /-- The tables cannot be made. -/
  | create
  | load (identity : Identity)
  | save (identity : Identity)
  | find (identity : Identity)
  | stream
  | readEntry (key : String)
  /-- The keys are in their order. -/
  | writeEntries (keys : List String)
  /-- The work of a scope cannot be done. -/
  | scope
  | stagedTwice (identity : Identity)
  /-- The amount of XP is past what a durable store holds. -/
  | pastRange
  /-- Rows are counted off in batches of zero. -/
  | countByZero
  /-- A fault of what the store stands on, passed on as it is. -/
  | foreign (kind : FaultKind) (message : String)
  deriving DecidableEq, Repr

namespace StoreFault

def kind : StoreFault → FaultKind
  | pastRange => .overflow
  | countByZero => .zeroDivision
  | foreign kind _ => kind
  | _ => .store

def message : StoreFault → String
  | closed => "Level store is closed"
  | create => "Failed to create level tables"
  | load identity => "Failed to load level data for " ++ identity
  | save identity => "Failed to save level data for " ++ identity
  | find identity => "exists() failed for " ++ identity
  | stream => "Failed to stream level data"
  | readEntry key => "Failed to read meta key " ++ key
  | writeEntries keys => "Failed to write meta keys " ++ bracketed (keys.map quoted)
  | scope => "Formula migration transaction failed"
  | stagedTwice identity => "Identity " ++ identity ++ " staged twice"
  | pastRange => "The amount of XP is past the range of the store"
  | countByZero => "Rows cannot be counted off by zero"
  | foreign _ message => message

end StoreFault

end Progression
