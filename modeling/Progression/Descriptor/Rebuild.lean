import Progression.Descriptor.Decode
import Progression.Formula.TableFile

namespace Progression

/-- Why no formula can be built. -/
inductive BuildFault where
  | formula (fault : FormulaFault)
  | table (fault : TableFileFault)
  | descriptor (fault : DescriptorFault)

namespace BuildFault

def kind : BuildFault → FaultKind
  | formula fault => fault.kind
  | table fault => fault.kind
  | descriptor _ => .descriptor

def message : BuildFault → String
  | formula fault => fault.message
  | table fault => fault.message
  | descriptor fault => fault.message

/-- The kind of the arithmetic fault behind a fault. -/
def cause? : BuildFault → Option FaultKind
  | formula fault => fault.cause?
  | _ => none

end BuildFault

/-- The formula with described parameters. A table is read from its file, and not made if it is missing. -/
def DescribedFormula.build (directory : Directory) : DescribedFormula → Except BuildFault Formula
  | exponential baseXp exponent maxLevel =>
    ((Exponential.make? (.float baseXp) (.float exponent) (.int maxLevel)).map .exponential).mapError .formula
  | linear xpPerLevel maxLevel =>
    ((Linear.make? (.int xpPerLevel) (.int maxLevel)).map .linear).mapError .formula
  | table file => ((LevelTable.load directory file false).1.map .table).mapError .table
  | custom expression constants maxLevel =>
    ((Custom.make? expression (constants.map fun _ value => .float value) (.int maxLevel)).map
      .custom).mapError .formula

/-- The formula that a descriptor was made from. -/
def Descriptor.rebuild (directory : Directory) (descriptor : Descriptor) : Except BuildFault Formula :=
  match descriptor.decode with
  | .error fault => .error (.descriptor fault)
  | .ok described => described.build directory

end Progression
