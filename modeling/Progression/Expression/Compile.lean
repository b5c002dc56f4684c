import Progression.Expression.Grammar
import Progression.Expression.Term
import Progression.Fault

/-!
Expressions as configuration gives them: a source text, the name of the unknown, and constants. Everything
that could be wrong with one is found before it is first worked out. How deep an expression is nested does
not matter: the limit of an interpreter's recursion is left out of the model, in reading, checking and working
out alike.
-/

namespace Progression.Expression

open Number Text

/-- Why a constant is refused. -/
inductive ConstantFault where
  | notIdentifier
  | reserved
  | notNumeric (value : Value)
  /-- An integer past the finite range. -/
  | tooLarge
  | notFinite (value : Value)

/-- Why an expression is refused. -/
inductive Refusal where
  | empty
  | constant (name : String) (fault : ConstantFault)
  | malformed (source : String)
  | unsupportedLiteral (literal : Literal)
  | undeclaredName (name source : String)
  /-- A call of something else than a known function, with its name if it has one. -/
  | undeclaredFunction (name : Option String) (source : String)
  | positionalOnly (function : Function)
  | unsupported (source : String)

/-- Check a constant under the name of the unknown and give its value. -/
def checkConstant (unknown name : String) (value : Value) : Except ConstantFault Float :=
  if !isIdentifier name.toList then .error .notIdentifier
  else if name = unknown ∨ (Function.ofName? name).isSome then .error .reserved
  else
    match value.toFloat with
    | .error .tooLarge => .error .tooLarge
    | .error _ => .error (.notNumeric value)
    | .ok number => if number.isFinite then .ok number else .error (.notFinite value)

/-- Check constants in order. -/
def checkConstants (unknown : String) :
    List (String × Value) → Except Refusal (List (String × Float))
  | [] => .ok []
  | (name, value) :: rest =>
    match checkConstant unknown name value with
    | .error fault => .error (.constant name fault)
    | .ok number => do return (name, number) :: (← checkConstants unknown rest)

/-- What the names of an expression stand for. -/
structure Scope where
  source : String
  unknown : String
  constants : List (String × Float)

mutual

/-- The term that a tree is, if every part of it is arithmetic. -/
def Tree.term? (scope : Scope) : Tree → Except Refusal Term
  | .literal (.int value) => .ok (.int value)
  | .literal (.float value) => .ok (.float value)
  | .literal value => .error (.unsupportedLiteral value)
  | .name text =>
    if text = scope.unknown then .ok .unknown
    else
      match scope.constants.lookup text with
      | some value => .ok (.constant text value)
      | none => .error (.undeclaredName text scope.source)
  | .signed negative operand => do return .signed negative (← operand.term? scope)
  | .binary operator left right => do
    let left ← left.term? scope
    return .binary operator left (← right.term? scope)
  | .call (.name callee) arguments keywords =>
    match Function.ofName? callee with
    | none => .error (.undeclaredFunction (some callee) scope.source)
    | some function =>
      if keywords ∨ arguments.isEmpty then .error (.positionalOnly function)
      else do return .call function (← terms? scope arguments)
  | .call _ _ _ => .error (.undeclaredFunction none scope.source)
  | .other _ => .error (.unsupported scope.source)

/-- The terms that several trees are. -/
def terms? (scope : Scope) : List Tree → Except Refusal (List Term)
  | [] => .ok []
  | first :: rest => do
    let term ← first.term? scope
    return term :: (← terms? scope rest)

end

/-- The text that is read as an expression: the circumflex is another way to write a power. -/
def readable (source : String) : List Char :=
  strip (source.toList.flatMap fun c => if c = '^' then ['*', '*'] else [c])

/-- A source text holds more than white space. -/
def checkNotEmpty (source : String) : Except Refusal Unit :=
  if (strip source.toList).isEmpty then .error .empty else .ok ()

/-- The term that a source text writes over an unknown and constants that were checked. -/
def compileOver (source unknown : String) (constants : List (String × Float)) : Except Refusal Term :=
  if source.toList.contains '\x00' then .error (.malformed source)
  else
    match Tree.read? (readable source) with
    | none => .error (.malformed source)
    | some tree => tree.term? ⟨source, unknown, constants⟩

/-- The term that a source text writes over an unknown and constants. -/
def compile (source unknown : String) (constants : Entries String Value) : Except Refusal Term := do
  checkNotEmpty source
  let numbers ← checkConstants unknown constants.pairs
  compileOver source unknown numbers

/-- The kind of fault that a refusal is. -/
def Refusal.kind : Refusal → FaultKind
  | constant _ .tooLarge => .overflow
  | _ => .configuration

/-- What a refusal says. -/
def Refusal.message : Refusal → String
  | empty => "Custom XP expression is empty"
  | constant name .notIdentifier => "Constant name " ++ quoted name ++ " is not a valid identifier"
  | constant name .reserved => "Constant name '" ++ name ++ "' shadows a reserved name"
  | constant name (.notNumeric value) => "Constant '" ++ name ++ "' must be numeric, got " ++ value.display
  | constant name (.notFinite value) => "Constant '" ++ name ++ "' must be finite, got " ++ value.display
  | constant name .tooLarge => "Constant '" ++ name ++ "' is too large"
  | malformed source => "Malformed custom XP expression " ++ quoted source
  | unsupportedLiteral literal =>
    "Unsupported literal " ++ literal.display ++ " in custom XP expression"
  | undeclaredName name source =>
    "Unknown identifier '" ++ name ++ "' in custom XP expression " ++ quoted source
  | undeclaredFunction (some name) source =>
    "Unknown function '" ++ name ++ "' in custom XP expression " ++ quoted source
  | undeclaredFunction none source => "Unknown function in custom XP expression " ++ quoted source
  | positionalOnly function => "Function '" ++ function.name ++ "' takes positional arguments only"
  | unsupported source => "Unsupported syntax in custom XP expression " ++ quoted source

end Progression.Expression
