import Progression.Text.Blank
import Progression.Text.Letter

namespace Progression

inductive FormulaKind where
  | exponential
  | linear
  | table
  | custom
  deriving DecidableEq, Repr

namespace FormulaKind

def name : FormulaKind → String
  | exponential => "EXPONENTIAL"
  | linear => "LINEAR"
  | table => "TABLE"
  | custom => "CUSTOM"

def all : List FormulaKind := [exponential, linear, table, custom]

/-- The kind that a text names, in any letter case and with white space around it. -/
def ofText? (text : String) : Option FormulaKind :=
  let wanted := String.ofList (Text.capitals (Text.strip text.toList))
  all.find? fun kind => kind.name = wanted

end FormulaKind

end Progression
