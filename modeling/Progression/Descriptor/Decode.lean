import Progression.Descriptor.Basic

namespace Progression

open Number Text

/-- The parameters that a descriptor gives. -/
inductive DescribedFormula where
  | exponential (baseXp exponent : Float) (maxLevel : Int)
  | linear (xpPerLevel maxLevel : Int)
  | table (file : String)
  | custom (expression : String) (constants : Entries String Float) (maxLevel : Int)

/-- What a number stands for. -/
inductive NumberSlot where
  | field (key : String)
  | constant (name : String)

def NumberSlot.display : NumberSlot → String
  | field key => key
  | constant name => "constant " ++ name

inductive DescriptorFault where
  | unknownKind (given : String)
  | malformedField (field params : String)
  | duplicateField (key params : String)
  | unexpectedKey (key : String) (kind : FormulaKind) (params : String)
  | missingKey (key : String) (kind : FormulaKind) (params : String)
  | notNumber (slot : NumberSlot) (given : String)
  | notFinite (slot : NumberSlot) (given : String)
  | notInteger (key given : String)
  | emptyFile
  | badBase64 (given : String)
  | malformedConstant (given : String)

def DescriptorFault.message : DescriptorFault → String
  | unknownKind given => "Unknown stored formula type " ++ quoted given
  | malformedField field params =>
    "Malformed descriptor field " ++ quoted field ++ " in " ++ quoted params
  | duplicateField key params => "Duplicate descriptor field '" ++ key ++ "' in " ++ quoted params
  | unexpectedKey key kind params =>
    "Unexpected key '" ++ key ++ "' in " ++ kind.name ++ " descriptor params " ++ quoted params
  | missingKey key kind params =>
    "Missing key '" ++ key ++ "' in " ++ kind.name ++ " descriptor params " ++ quoted params
  | notNumber slot given =>
    "Descriptor field '" ++ slot.display ++ "' is not a number: " ++ quoted given
  | notFinite slot given => "Descriptor field '" ++ slot.display ++ "' must be finite: " ++ quoted given
  | notInteger key given => "Descriptor field '" ++ key ++ "' is not an integer: " ++ quoted given
  | emptyFile => "Empty 'file' in TABLE descriptor params"
  | badBase64 given => "Invalid base64 in descriptor: " ++ quoted given
  | malformedConstant given => "Malformed constant " ++ quoted given ++ " in descriptor"

namespace Descriptor

/-- The keys of each kind, and whether they are required. -/
def schema : FormulaKind → List (String × Bool)
  | .exponential => [("baseXp", true), ("exponent", true), ("maxLevel", false)]
  | .linear => [("xpPerLevel", true), ("maxLevel", false)]
  | .table => [("file", true)]
  | .custom => [("exprB64", true), ("constB64", false), ("maxLevel", false)]

abbrev Fields := Entries String String

/-- A part `key=value`, if its key is not empty. -/
def pair? (part : List Char) : Option (String × String) := do
  let (key, value) ← cutAt? '=' part
  guard (!key.isEmpty)
  return (.ofList key, .ofList value)

/-- Add parts to the fields before them. -/
def addParts (params : String) (fields : Fields) : List (List Char) → Except DescriptorFault Fields
  | [] => .ok fields
  | part :: rest =>
    match pair? part with
    | none => .error (.malformedField (.ofList part) params)
    | some (key, value) =>
      if fields.contains key then .error (.duplicateField key params)
      else addParts params (fields.put key value) rest

/-- The fields of parameters. -/
def readFields (params : String) : Except DescriptorFault Fields :=
  if params.isEmpty then .ok ∅ else addParts params ∅ (splitAt ';' params.toList)

/-- The keys of the fields are those of the kind. -/
def checkKeys (kind : FormulaKind) (params : String) (fields : Fields) : Except DescriptorFault Unit :=
  match fields.keys.find? fun key => ((schema kind).lookup key).isNone with
  | some key => .error (.unexpectedKey key kind params)
  | none =>
    match (schema kind).find? fun (key, required) => required && !fields.contains key with
    | some (key, _) => .error (.missingKey key kind params)
    | none => .ok ()

/-- The text of a required field. -/
def required (fields : Fields) (key : String) : String := (fields.get? key).getD ""

def readNumber (slot : NumberSlot) (given : String) : Except DescriptorFault Float :=
  match readFloat? given.toList with
  | none => .error (.notNumber slot given)
  | some value => if value.isFinite then .ok value else .error (.notFinite slot given)

def readInteger (key given : String) : Except DescriptorFault Int :=
  (readInt? given.toList).elim (.error (.notInteger key given)) .ok

def readBase64 (given : String) : Except DescriptorFault String :=
  (Base64.toText? given).elim (.error (.badBase64 given)) .ok

/-- Add the constants of parts to those before them; of equal names the last one counts. -/
def addConstants (constants : Entries String Float) :
    List (List Char) → Except DescriptorFault (Entries String Float)
  | [] => .ok constants
  | part :: rest =>
    match pair? part with
    | none => .error (.malformedConstant (.ofList part))
    | some (name, value) => do
      let number ← readNumber (.constant name) value
      addConstants (constants.put name number) rest

def readConstants (given : String) : Except DescriptorFault (Entries String Float) :=
  if given.isEmpty then .ok ∅
  else do
    let text ← readBase64 given
    addConstants ∅ (splitAt ',' text.toList)

/-- The maximum level, which every kind but the table may give. -/
def readMaxLevel (fields : Fields) : Except DescriptorFault Int :=
  match fields.get? "maxLevel" with
  | some given => readInteger "maxLevel" given
  | none => .ok Formula.defaultMaxLevel

/-- The parameters that the fields of a kind give. -/
def parameters (kind : FormulaKind) (fields : Fields) : Except DescriptorFault DescribedFormula := do
  let maxLevel ← readMaxLevel fields
  match kind with
  | .exponential =>
    let baseXp ← readNumber (.field "baseXp") (required fields "baseXp")
    let exponent ← readNumber (.field "exponent") (required fields "exponent")
    return .exponential baseXp exponent maxLevel
  | .linear => return .linear (← readInteger "xpPerLevel" (required fields "xpPerLevel")) maxLevel
  | .table =>
    let file := required fields "file"
    if file.isEmpty then throw .emptyFile else return .table file
  | .custom =>
    let expression ← readBase64 (required fields "exprB64")
    let constants ← readConstants (required fields "constB64")
    return .custom expression constants maxLevel

/-- The parameters that a descriptor gives. -/
def decode (descriptor : Descriptor) : Except DescriptorFault DescribedFormula :=
  match FormulaKind.ofText? descriptor.kind with
  | none => .error (.unknownKind descriptor.kind)
  | some kind => do
    let fields ← readFields descriptor.params
    checkKeys kind descriptor.params fields
    parameters kind fields

end Descriptor

end Progression
