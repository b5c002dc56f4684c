import Progression.Number.Shortest
import Progression.Text.Quoted

namespace Progression.Expression

open Number Text

inductive Literal where
  | int (value : Nat)
  | float (value : Float)
  | imaginary (value : Float)
  | bool (value : Bool)
  | null
  | ellipsis
  /-- Code points, which may be halves of surrogate pairs. -/
  | text (points : List Nat)
  | bytes (values : List Nat)

/-- A literal as messages show it. -/
def Literal.display : Literal → String
  | int value => toString value
  | float value => shortest value
  | imaginary value => DecimalStyle.bare.render value ++ "j"
  | bool value => if value then "True" else "False"
  | null => "None"
  | ellipsis => "Ellipsis"
  | text points => quotedPoints points
  | bytes values => quotedBytes values

end Progression.Expression
