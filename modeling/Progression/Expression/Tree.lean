import Progression.Expression.Literal

namespace Progression.Expression

/-- The operations between two numbers. -/
inductive Operator where
  | add
  | subtract
  | multiply
  | divide
  | power
  deriving DecidableEq, Repr

/-- An expression as it is read. -/
inductive Tree where
  | literal (value : Literal)
  | name (text : String)
  /-- A sign in front of an expression. -/
  | signed (negative : Bool) (operand : Tree)
  | binary (operator : Operator) (left right : Tree)
  /-- A call; `keywords` says that some arguments are given by name. -/
  | call (callee : Tree) (arguments : List Tree) (keywords : Bool)
  /-- Any other form of expression; `assignable` says that it may stand where a name is bound. -/
  | other (assignable : Bool)

/-- Whether an expression may stand where a name is bound. -/
def Tree.assignable : Tree → Bool
  | name _ => true
  | other assignable => assignable
  | _ => false

end Progression.Expression
