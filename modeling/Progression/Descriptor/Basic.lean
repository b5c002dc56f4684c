import Progression.Formula.Basic
import Progression.Text.Base64

/-!
Descriptors: a formula as two texts, its kind and its parameters. Parameters are fields `key=value` in the
order of their keys; numbers are written with the fewest digits that read back, texts in base 64. The
descriptor of a table names its file, not its floors.
-/

namespace Progression

open Number Text

structure Descriptor where
  kind : String
  params : String
  deriving DecidableEq, Repr

/-- The key under which a store keeps the kind. -/
def kindKey : String := "formula.type"

/-- The key under which a store keeps the parameters. -/
def paramsKey : String := "formula.params"

namespace Descriptor

/-- The entries under which a store keeps a descriptor. -/
def entries (descriptor : Descriptor) : List (String × String) :=
  [(kindKey, descriptor.kind), (paramsKey, descriptor.params)]

/-- The descriptor with given fields. -/
def ofFields (kind : FormulaKind) (fields : List (String × String)) : Descriptor where
  kind := kind.name
  params := ";".intercalate (fields.map fun (key, value) => key ++ "=" ++ value)

/-- Constants as one text: entries `name=number` between commas. -/
def constantsText (constants : List (String × Float)) : String :=
  ",".intercalate (constants.map fun (name, value) => name ++ "=" ++ shortest value)

/-- Constants as a field. -/
def constantsField (constants : List (String × Float)) : String :=
  if constants.isEmpty then "" else Base64.ofText (constantsText constants)

/-- The descriptor of a formula. -/
def describe : Formula → Descriptor
  | .exponential formula => ofFields .exponential [
      ("baseXp", shortest formula.baseXp.value), ("exponent", shortest formula.exponent.value),
      ("maxLevel", toString formula.maxLevel)]
  | .linear formula => ofFields .linear [
      ("maxLevel", toString formula.maxLevel), ("xpPerLevel", toString formula.xpPerLevel)]
  | .table levels => ofFields .table [("file", levels.source)]
  | .custom formula => ofFields .custom [
      ("constB64", constantsField formula.numbers),
      ("exprB64", Base64.ofText formula.expression), ("maxLevel", toString formula.maxLevel)]

end Descriptor

end Progression
