import Progression.Entries
import Progression.Number.Numeral
import Progression.Text.Lines
import Progression.Value

namespace Progression.Settings

open Number Text

/-- Why a field is refused. -/
inductive FieldProblem where
  | intParsing
  | intParsingSize
  | intFromFloat
  | intType
  | finiteNumber
  | floatParsing
  | floatType
  | boolParsing
  | boolType
  | stringType
  | dictType
  | listType
  | modelType
  | missing
  | extraForbidden
  deriving DecidableEq, Repr

def FieldProblem.name : FieldProblem → String
  | intParsing => "int_parsing"
  | intParsingSize => "int_parsing_size"
  | intFromFloat => "int_from_float"
  | intType => "int_type"
  | finiteNumber => "finite_number"
  | floatParsing => "float_parsing"
  | floatType => "float_type"
  | boolParsing => "bool_parsing"
  | boolType => "bool_type"
  | stringType => "string_type"
  | dictType => "dict_type"
  | listType => "list_type"
  | modelType => "model_type"
  | missing => "missing"
  | extraForbidden => "extra_forbidden"

/-- A refused field. -/
structure FieldFault where
  path : List String
  problem : FieldProblem
  deriving DecidableEq, Repr

/-- A field as lists of faults show it. -/
def FieldFault.display (fault : FieldFault) : String :=
  ".".intercalate fault.path ++ ":" ++ fault.problem.name

/-- What was read, or all that was wrong with it. -/
inductive Reading (α : Type) where
  | read (value : α)
  | refused (faults : List FieldFault)

namespace Reading

variable {α β : Type}

def map (f : α → β) : Reading α → Reading β
  | read value => read (f value)
  | refused faults => refused faults

/-- Read both, and gather the faults of both. -/
def both : Reading (α → β) → Reading α → Reading β
  | read f, read value => read (f value)
  | read _, refused faults => refused faults
  | refused faults, read _ => refused faults
  | refused first, refused second => refused (first ++ second)

instance : Applicative Reading where
  pure := read
  map := map
  seq f value := f.both (value ())

/-- Read the items of a list, and gather the faults of all. -/
def all (readItem : Nat → α → Reading β) (index : Nat) : List α → Reading (List β)
  | [] => read []
  | item :: rest => List.cons <$> readItem index item <*> all readItem (index + 1) rest

def toExcept : Reading α → Except (List FieldFault) α
  | read value => .ok value
  | refused faults => .error faults

end Reading

/-- A way to read a value that stands at a path. -/
abbrev Reader (α : Type) := List String → Value → Reading α

def refuse {α : Type} (path : List String) (problem : FieldProblem) : Reading α :=
  .refused [⟨path, problem⟩]

/-- A text without the underscores between its characters. None may stand first or last or beside another. -/
def withoutUnderscores? (text : List Char) : Option (List Char) :=
  if text.head? = some '_' ∨ text.getLast? = some '_' then none
  else if (splitAt '_' text).any List.isEmpty && text.contains '_' then none
  else some (text.filter (· ≠ '_'))

/-- An integer without a fraction of zeros. -/
def withoutZeroFraction (text : List Char) : List Char :=
  match cutAt? '.' text with
  | some (whole, fraction) => if fraction.all (· = '0') then whole else text
  | none => text

/-- The integer that a text gives to a field. -/
def fieldInteger? (text : List Char) : Option Int := do
  let (negative, body) := takeSign (trimBy isSpace text)
  let digits ← withoutUnderscores? (withoutZeroFraction body)
  guard (!digits.isEmpty && digits.all Char.isDigit)
  let magnitude := ofDigits 10 (digits.filterMap asciiDigit?)
  return if negative then -magnitude else magnitude

/-- The number that a text gives to a field. -/
def fieldFloat? (text : List Char) : Option Float := do
  let body ← withoutUnderscores? (trimBy isSpace text)
  guard (body.all (·.toNat < 128))
  readFloat? body

/-- The integer that a decimal gives to a field. -/
def integerOfFloat (path : List String) (x : Float) : Reading Int :=
  match Binary.ofFloat x with
  | .finite negative mantissa scale =>
    let floor := floorOf negative mantissa scale
    if floor ≠ ceilOf negative mantissa scale then refuse path .intFromFloat
    else if floor.natAbs < 1 <<< 63 then .read floor
    else refuse path .intParsingSize
  | _ => refuse path .finiteNumber

def integer : Reader Int
  | _, .int value => .read value
  | _, .bool value => .read (if value then 1 else 0)
  | path, .float value => integerOfFloat path value
  | path, .text value =>
    if maxIntegerDigits < value.length then refuse path .intParsingSize
    else (fieldInteger? value.toList).elim (refuse path .intParsing) .read
  | path, _ => refuse path .intType

def decimal : Reader Float
  | _, .float value => .read value
  | path, .int value => (ofInt? value).elim (refuse path .floatType) .read
  | _, .bool value => .read (if value then 1 else 0)
  | path, .text value => (fieldFloat? value.toList).elim (refuse path .floatParsing) .read
  | path, _ => refuse path .floatType

/-- A decimal that may be left out by the null value. -/
def decimal? : Reader (Option Float)
  | _, .null => .read none
  | path, value => some <$> decimal path value

/-- The words for truth values. -/
def truthWords : List (String × Bool) := [
  ("0", false), ("off", false), ("f", false), ("false", false), ("n", false), ("no", false), ("1", true),
  ("on", true), ("t", true), ("true", true), ("y", true), ("yes", true)]

def truthOfInteger (path : List String) (value : Int) : Reading Bool :=
  if value = 0 then .read false else if value = 1 then .read true else refuse path .boolParsing

def truth : Reader Bool
  | _, .bool value => .read value
  | path, .int value => truthOfInteger path value
  | path, .float value =>
    match integerOfFloat path value with
    | .read whole => truthOfInteger path whole
    | .refused _ => refuse path .boolType
  | path, .text value => (truthWords.lookup value.toLower).elim (refuse path .boolParsing) .read
  | path, _ => refuse path .boolType

def text : Reader String
  | _, .text value => .read value
  | path, _ => refuse path .stringType

/-- A list whose items are read alike. -/
def listOf {α : Type} (item : Reader α) : Reader (List α)
  | path, .list items => Reading.all (fun index => item (path ++ [toString index])) 0 items
  | path, _ => refuse path .listType

/-- A map whose values are read alike. -/
def mapOf {α : Type} (item : Reader α) : Reader (Entries String α)
  | path, .map pairs =>
    Entries.ofList <$> Reading.all (fun _ pair => (pair.1, ·) <$> item (path ++ [pair.1]) pair.2) 0 pairs
  | path, _ => refuse path .dictType

/-- A block of fields. -/
def block {α : Type} (fields : List String → List (String × Value) → Reading α) : Reader α
  | path, .map pairs => fields path pairs
  | path, _ => refuse path .modelType

/-- A field of a block, with what it is if it is not given. -/
def field {α : Type} (path : List String) (pairs : List (String × Value)) (key : String) (reader : Reader α)
    (default : α) : Reading α :=
  match pairs.lookup key with
  | some value => reader (path ++ [key]) value
  | none => .read default

/-- A field of a block that must be given. -/
def requiredField {α : Type} (path : List String) (pairs : List (String × Value)) (key : String)
    (reader : Reader α) : Reading α :=
  match pairs.lookup key with
  | some value => reader (path ++ [key]) value
  | none => refuse (path ++ [key]) .missing

end Progression.Settings
