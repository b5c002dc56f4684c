import Progression.Expression.Escape
import Progression.Expression.Tree
import Progression.Text.Lines
import Progression.Text.PlainName

/-!
The grammar of expressions. It takes in far more than arithmetic, so that a text which is an expression of
some other kind is told apart from a text which is none. Every function takes `fuel`, which bounds the
depth of calls; the text as a whole is given enough of it.
-/

namespace Progression.Expression

open Text

/-- Words that are no names. -/
def keywords : List String := [
  "False", "None", "True", "and", "as", "assert", "async", "await", "break", "class", "continue", "def",
  "del", "elif", "else", "except", "finally", "for", "from", "global", "if", "import", "in", "is",
  "lambda", "nonlocal", "not", "or", "pass", "raise", "return", "try", "while", "with", "yield"]

abbrev Grammar (α : Type) := StateT (List Token) Option α

/-- Whether a mark comes next. -/
def atMark (text : String) : Grammar Bool := do
  match (← get).head? with
  | some (.mark found) => return found = text
  | _ => return false

/-- Whether a word comes next. -/
def atWord (text : String) : Grammar Bool := do
  match (← get).head? with
  | some (.word found) => return found = text
  | _ => return false

def advance : Grammar Unit := modify List.tail

/-- Pass over a mark if it comes next. -/
def passMark (text : String) : Grammar Bool := do
  if ← atMark text then advance; return true
  else return false

/-- Pass over a word if it comes next. -/
def passWord (text : String) : Grammar Bool := do
  if ← atWord text then advance; return true
  else return false

def expectMark (text : String) : Grammar Unit := do guard (← passMark text)

def expectWord (text : String) : Grammar Unit := do guard (← passWord text)

/-- A name that a given mark follows, if both come next. -/
def nameBefore? (mark : String) : Grammar (Option String) := do
  match ← get with
  | .word name :: .mark found :: _ =>
    return if found = mark ∧ name ∉ keywords then some name else none
  | _ => return none

/-- A name, in its plain form. -/
def name : Grammar String := do
  match ← get with
  | .word name :: _ =>
    guard (name ∉ keywords)
    advance
    return plainName name
  | _ => failure

/-- The marks between two operands, from the loosest to the tightest. -/
def binaryMarks : List (List String) :=
  [["|"], ["&"], ["<<", ">>"], ["+", "-"], ["*", "/", "//", "%", "@"]]

/-- The expression that a mark makes of two operands. -/
def binaryTree (mark : String) (left right : Tree) : Tree :=
  match mark with
  | "+" => .binary .add left right
  | "-" => .binary .subtract left right
  | "*" => .binary .multiply left right
  | "/" => .binary .divide left right
  | _ => .other false

/-- Pass over one of several marks. -/
def passOneOf (texts : List String) : Grammar (Option String) := do
  match (← get).head? with
  | some (.mark found) =>
    if found ∈ texts then advance; return some found
    else return none
  | _ => return none

/-- Pass over a mark or words that compare. -/
def passComparison : Grammar Bool := do
  if (← passOneOf ["==", "!=", "<=", "<", ">=", ">"]).isSome then return true
  match ← get with
  | .word "not" :: .word "in" :: rest | .word "is" :: .word "not" :: rest => set rest; return true
  | .word "in" :: rest | .word "is" :: rest => set rest; return true
  | _ => return false

/-- The texts between quotes that stand next to one another. -/
def passQuoted : List Token → List QuotedText × List Token
  | .quoted text :: rest =>
    let (texts, rest) := passQuoted rest
    (text :: texts, rest)
  | rest => ([], rest)

/-- Whether a comprehension goes on here. -/
def atClause : Grammar Bool := do return (← atWord "for") || (← atWord "async")

/-- How far a list of parameters has come. -/
structure ParameterState where
  present : Bool
  defaulted : Bool
  slashed : Bool
  starred : Bool
  /-- A lone star asks for a name after it. -/
  pending : Bool

mutual

/-- One of the expressions that commas separate at the top. -/
def expression : Nat → Grammar Tree
  | 0 => failure
  | fuel + 1 => do
    if ← passWord "lambda" then
      parameters fuel ⟨false, false, false, false, false⟩
      let _ ← expression fuel
      return .other false
    let value ← disjunction fuel
    if ← passWord "if" then
      let _ ← disjunction fuel
      expectWord "else"
      let _ ← expression fuel
      return .other false
    return value

/-- Parameters up to and with the colon after them. -/
def parameters : Nat → ParameterState → Grammar Unit
  | 0, _ => failure
  | fuel + 1, state => do
    if ← passMark ":" then guard (!state.pending)
    else if ← passMark "**" then
      guard (!state.pending)
      let _ ← name
      let _ ← passMark ","
      expectMark ":"
    else if ← passMark "*" then
      guard (!state.starred)
      if ← passMark "," then
        parameters fuel { state with present := true, starred := true, pending := true }
      else
        let _ ← name
        nextParameter fuel { state with present := true, starred := true }
    else if ← passMark "/" then
      guard (state.present && !state.slashed && !state.starred)
      nextParameter fuel { state with slashed := true }
    else
      let _ ← name
      if ← passMark "=" then
        let _ ← expression fuel
        nextParameter fuel { state with present := true, defaulted := true, pending := false }
      else
        guard (state.starred || !state.defaulted)
        nextParameter fuel { state with present := true, pending := false }

/-- What follows a parameter: a comma and more of them, or the end. -/
def nextParameter : Nat → ParameterState → Grammar Unit
  | 0, _ => failure
  | fuel + 1, state => do
    if ← passMark "," then parameters fuel state
    else
      guard (← atMark ":")
      parameters fuel state

def disjunction : Nat → Grammar Tree
  | 0 => failure
  | fuel + 1 => do
    let left ← conjunction fuel
    if ← passWord "or" then
      let _ ← disjunction fuel
      return .other false
    return left

def conjunction : Nat → Grammar Tree
  | 0 => failure
  | fuel + 1 => do
    let left ← inversion fuel
    if ← passWord "and" then
      let _ ← conjunction fuel
      return .other false
    return left

def inversion : Nat → Grammar Tree
  | 0 => failure
  | fuel + 1 => do
    if ← passWord "not" then
      let _ ← inversion fuel
      return .other false
    let left ← operand fuel 0
    comparisonTail fuel left

def comparisonTail : Nat → Tree → Grammar Tree
  | 0, _ => failure
  | fuel + 1, left => do
    if ← passComparison then
      let _ ← operand fuel 0
      comparisonTail fuel (.other false)
    else return left

/-- An operand of the marks before a level. -/
def operand : Nat → Nat → Grammar Tree
  | 0, _ => failure
  | fuel + 1, level => do
    match binaryMarks[level]? with
    | some marks =>
      let left ← operand fuel (level + 1)
      operandTail fuel level marks left
    | none => factor fuel

def operandTail : Nat → Nat → List String → Tree → Grammar Tree
  | 0, _, _, _ => failure
  | fuel + 1, level, marks, left => do
    match ← passOneOf marks with
    | some mark =>
      let right ← operand fuel (level + 1)
      operandTail fuel level marks (binaryTree mark left right)
    | none => return left

/-- A power with signs in front. -/
def factor : Nat → Grammar Tree
  | 0 => failure
  | fuel + 1 => do
    if ← passMark "+" then return .signed false (← factor fuel)
    else if ← passMark "-" then return .signed true (← factor fuel)
    else if ← passMark "~" then
      let _ ← factor fuel
      return .other false
    else
      let base ← awaited fuel
      if ← passMark "**" then return .binary .power base (← factor fuel)
      else return base

def awaited : Nat → Grammar Tree
  | 0 => failure
  | fuel + 1 => do
    if ← passWord "await" then
      let _ ← primary fuel
      return .other false
    else primary fuel

def primary : Nat → Grammar Tree
  | 0 => failure
  | fuel + 1 => do
    let head ← atom fuel
    primaryTail fuel head

/-- Members, calls and subscripts after an expression. -/
def primaryTail : Nat → Tree → Grammar Tree
  | 0, _ => failure
  | fuel + 1, head => do
    if ← passMark "." then
      let _ ← name
      primaryTail fuel (.other true)
    else if ← passMark "(" then
      let (arguments, keywords) ← callArguments fuel
      primaryTail fuel (.call head arguments keywords)
    else if ← passMark "[" then
      subscripts fuel
      primaryTail fuel (.other true)
    else return head

/-- What follows the opening bracket of a call. A comprehension may be the only argument. -/
def callArguments : Nat → Grammar (List Tree × Bool)
  | 0 => failure
  | fuel + 1 => do
    if (← atMark ")") || (← atMark "*") || (← atMark "**") || (← nameBefore? "=").isSome then
      arguments fuel false false
    else
      let value ← namedExpression fuel
      if ← atClause then
        clauses fuel
        expectMark ")"
        return ([.other false], false)
      else nextArgument fuel (some value) false false

/-- Arguments up to and with the closing bracket; the flags say whether an argument was given by name, and
whether some were given by a map of names. -/
def arguments : Nat → Bool → Bool → Grammar (List Tree × Bool)
  | 0, _, _ => failure
  | fuel + 1, named, mapped => do
    if ← passMark ")" then return ([], named)
    else if ← passMark "*" then
      guard (!mapped)
      let _ ← expression fuel
      nextArgument fuel (some (.other false)) named mapped
    else if ← passMark "**" then
      let _ ← expression fuel
      nextArgument fuel none true true
    else if (← nameBefore? "=").isSome then
      advance
      advance
      let _ ← expression fuel
      nextArgument fuel none true mapped
    else
      guard (!named)
      let value ← namedExpression fuel
      nextArgument fuel (some value) named mapped

/-- What follows an argument: a comma and more of them, or the end. -/
def nextArgument : Nat → Option Tree → Bool → Bool → Grammar (List Tree × Bool)
  | 0, _, _, _ => failure
  | fuel + 1, argument, named, mapped => do
    guard ((← passMark ",") || (← atMark ")"))
    let (others, keywords) ← arguments fuel named mapped
    return (argument.toList ++ others, keywords)

/-- The slices of a subscript up to and with the closing bracket; there is at least one. -/
def subscripts : Nat → Grammar Unit
  | 0 => failure
  | fuel + 1 => do
    if ← passMark "*" then
      let _ ← expression fuel
    else if ← atMark ":" then sliceTail fuel
    else if (← nameBefore? ":=").isSome then
      let _ ← namedExpression fuel
    else
      let _ ← expression fuel
      if ← atMark ":" then sliceTail fuel
    if ← passMark "," then
      if ← passMark "]" then return
      else subscripts fuel
    else expectMark "]"

/-- A slice from its first colon on. -/
def sliceTail : Nat → Grammar Unit
  | 0 => failure
  | fuel + 1 => do
    expectMark ":"
    sliceBound fuel
    if ← passMark ":" then sliceBound fuel

def sliceBound : Nat → Grammar Unit
  | 0 => failure
  | fuel + 1 => do
    if (← atMark ":") || (← atMark ",") || (← atMark "]") then return
    else
      let _ ← expression fuel

/-- An expression that may be bound to a name. -/
def namedExpression : Nat → Grammar Tree
  | 0 => failure
  | fuel + 1 => do
    if (← nameBefore? ":=").isSome then
      advance
      advance
      let _ ← expression fuel
      return .other false
    else expression fuel

/-- An item of a display, and whether a star spreads it. -/
def item : Nat → Grammar (Bool × Tree)
  | 0 => failure
  | fuel + 1 => do
    if ← passMark "*" then
      let value ← operand fuel 0
      return (true, .other value.assignable)
    else return (false, ← namedExpression fuel)

/-- Further items up to and with the closing mark; says whether names may be bound to all of them. -/
def items : Nat → String → Bool → Grammar Bool
  | 0, _, _ => failure
  | fuel + 1, closing, assignable => do
    if ← passMark closing then return assignable
    else
      expectMark ","
      if ← passMark closing then return assignable
      else
        let (_, value) ← item fuel
        items fuel closing (assignable && value.assignable)

/-- The clauses of a comprehension; there is at least one. -/
def clauses : Nat → Grammar Unit
  | 0 => failure
  | fuel + 1 => do
    let _ ← passWord "async"
    expectWord "for"
    targets fuel
    let _ ← disjunction fuel
    conditions fuel
    if ← atClause then clauses fuel

def conditions : Nat → Grammar Unit
  | 0 => failure
  | fuel + 1 => do
    if ← passWord "if" then
      let _ ← disjunction fuel
      conditions fuel

/-- The names that a comprehension binds, up to and with the word after them. -/
def targets : Nat → Grammar Unit
  | 0 => failure
  | fuel + 1 => do
    let _ ← passMark "*"
    let target ← operand fuel 0
    guard target.assignable
    if ← passMark "," then
      if ← passWord "in" then return
      else targets fuel
    else expectWord "in"

/-- Expressions that commas separate, each with or without a star, up to a mark that is left. -/
def spread : Nat → String → Grammar Unit
  | 0, _ => failure
  | fuel + 1, closing => do
    if ← passMark "*" then
      let _ ← operand fuel 0
    else
      let _ ← expression fuel
    if ← passMark "," then
      if ← atMark closing then return
      else spread fuel closing

def atom : Nat → Grammar Tree
  | 0 => failure
  | fuel + 1 => do
    match ← get with
    | .word "True" :: rest => set rest; return .literal (.bool true)
    | .word "False" :: rest => set rest; return .literal (.bool false)
    | .word "None" :: rest => set rest; return .literal .null
    | .mark "..." :: rest => set rest; return .literal .ellipsis
    | .word _ :: _ => return .name (← name)
    | .number value :: rest => set rest; return .literal value
    | .quoted first :: rest =>
      let (others, rest) := passQuoted rest
      set rest
      quotedTree fuel (first :: others)
    | .mark "(" :: rest => set rest; parenthesised fuel
    | .mark "[" :: rest => set rest; bracketed fuel
    | .mark "\x7b" :: rest => set rest; braces fuel
    | _ => failure

/-- Texts between quotes that stand next to one another: all of them bytes, or none. -/
def quotedTree : Nat → List QuotedText → Grammar Tree
  | 0, _ => failure
  | fuel + 1, texts => do
    guard (texts.all (·.bytes) || texts.all (!·.bytes))
    if texts.any (·.formatted) then
      formattedTexts fuel texts
      return .other false
    else
      let points ← texts.mapM fun text => liftM (bodyPoints? text.bytes text.raw text.body)
      return .literal (if texts.any (·.bytes) then .bytes points.flatten else .text points.flatten)

/-- Check the texts next to one another if the braces of some of them hold expressions. -/
def formattedTexts : Nat → List QuotedText → Grammar Unit
  | 0, _ => failure
  | _, [] => return
  | fuel + 1, text :: rest => do
    if text.formatted then
      let expressions ← liftM (braced? text.raw text.body)
      innerExpressions fuel expressions
    else
      let _ ← liftM (m := Option) (bodyPoints? text.bytes text.raw text.body)
    formattedTexts fuel rest

/-- Check the expressions between the braces of a text. -/
def innerExpressions : Nat → List (List Char) → Grammar Unit
  | 0, _ => failure
  | _, [] => return
  | fuel + 1, text :: rest => do
    let tokens ← liftM (tokens? ('(' :: text ++ [')']))
    let outer ← get
    set tokens
    spread fuel ""
    guard (← get).isEmpty
    set outer
    innerExpressions fuel rest

/-- What follows an opening parenthesis. -/
def parenthesised : Nat → Grammar Tree
  | 0 => failure
  | fuel + 1 => do
    if ← passMark ")" then return .other true
    else if ← passWord "yield" then
      if ← passWord "from" then
        let _ ← expression fuel
      else if !(← atMark ")") then spread fuel ")"
      expectMark ")"
      return .other false
    else
      let (starred, first) ← item fuel
      if ← atClause then
        guard (!starred)
        clauses fuel
        expectMark ")"
        return .other false
      else if ← atMark "," then return .other (← items fuel ")" first.assignable)
      else
        guard (!starred)
        expectMark ")"
        return first

/-- What follows an opening bracket. -/
def bracketed : Nat → Grammar Tree
  | 0 => failure
  | fuel + 1 => do
    if ← passMark "]" then return .other true
    else
      let (starred, first) ← item fuel
      if ← atClause then
        guard (!starred)
        clauses fuel
        expectMark "]"
        return .other false
      else return .other (← items fuel "]" first.assignable)

/-- What follows an opening brace: a map or a set. -/
def braces : Nat → Grammar Tree
  | 0 => failure
  | fuel + 1 => do
    if ← passMark "\x7d" then return .other false
    else if ← passMark "**" then
      let _ ← operand fuel 0
      associations fuel
    else
      let bound ← nameBefore? ":="
      let (starred, _) ← item fuel
      if ← passMark ":" then
        guard (!starred && bound.isNone)
        let _ ← expression fuel
        if ← atClause then
          clauses fuel
          expectMark "\x7d"
        else associations fuel
      else if ← atClause then
        guard (!starred)
        clauses fuel
        expectMark "\x7d"
      else
        let _ ← items fuel "\x7d" false
    return .other false

/-- Further associations of a map up to and with the closing brace. -/
def associations : Nat → Grammar Unit
  | 0 => failure
  | fuel + 1 => do
    if ← passMark "\x7d" then return
    else
      expectMark ","
      if ← passMark "\x7d" then return
      else if ← passMark "**" then
        let _ ← operand fuel 0
        associations fuel
      else
        let _ ← expression fuel
        expectMark ":"
        let _ ← expression fuel
        associations fuel

end

/-- Expressions that commas separate make one expression of another kind. -/
def topTail : Nat → Tree → Grammar Tree
  | 0, _ => failure
  | fuel + 1, value => do
    if ← passMark "," then
      if (← get).isEmpty then return .other false
      else
        let _ ← expression fuel
        topTail fuel (.other false)
    else return value

/-- The tree that a text writes. -/
def Tree.read? (text : List Char) : Option Tree := do
  let text := unifyNewlines text
  let fuel := 64 * (text.length + 4)
  let tokens ← tokens? text
  let ((value : Tree), rest) ← (do topTail fuel (← expression fuel)).run tokens
  guard rest.isEmpty
  return value

end Progression.Expression
