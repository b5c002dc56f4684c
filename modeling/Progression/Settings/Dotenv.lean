import Progression.Entries
import Progression.Text.Blank
import Progression.Text.Lines

/-!
Files of variables: one `NAME=value` for each line, with an optional word `export`, quotes of either kind,
comments after a number sign, and references to other variables. A line that cannot be read is left out.
-/

namespace Progression.Settings.Dotenv

open Text

/-- A variable as a file gives it; one without a sign of equality has no value. -/
structure Binding where
  name : String
  value : Option String

def isLineEnd (c : Char) : Bool := c = '\n' || c = '\r'

/-- White space within a line. -/
def isInlineBlank (c : Char) : Bool := isBlank c && !isLineEnd c

def skipInline (text : List Char) : List Char := text.dropWhile isInlineBlank

/-- What follows the line end that a text begins with. -/
def dropLineEnd : List Char → List Char
  | '\r' :: '\n' :: rest => rest
  | c :: rest => if isLineEnd c then rest else c :: rest
  | [] => []

/-- What follows the line that a text begins with. -/
def nextLine (text : List Char) : List Char := dropLineEnd (text.dropWhile fun c => !isLineEnd c)

/-- A text up to the closing quote, which a backslash hides, and what follows it. -/
def takeQuoted? (quote : Char) : List Char → Option (List Char × List Char)
  | '\\' :: c :: rest =>
    if c = quote then do
      let (body, rest) ← takeQuoted? quote rest
      return ('\\' :: c :: body, rest)
    else do
      let (body, rest) ← takeQuoted? quote (c :: rest)
      return ('\\' :: body, rest)
  | c :: rest =>
    if c = quote then some ([], rest)
    else do
      let (body, rest) ← takeQuoted? quote rest
      return (c :: body, rest)
  | [] => none
termination_by text => text.length

/-- Escapes between single quotes. -/
def singleEscapes : List (Char × Char) := [('\\', '\\'), ('\'', '\'')]

/-- Escapes between double quotes. -/
def doubleEscapes : List (Char × Char) :=
  singleEscapes ++ [('"', '"'), ('a', '\x07'), ('b', '\x08'), ('f', '\x0c'), ('n', '\n'), ('r', '\r'),
    ('t', '\t'), ('v', '\x0b')]

/-- Replace the escapes of a table. -/
def unescape (escapes : List (Char × Char)) : List Char → List Char
  | '\\' :: c :: rest =>
    match escapes.lookup c with
    | some meant => meant :: unescape escapes rest
    | none => '\\' :: unescape escapes (c :: rest)
  | c :: rest => c :: unescape escapes rest
  | [] => []
termination_by text => text.length

/-- A value without quotes: up to a comment that white space precedes, or to the end. -/
def plainValue : List Char → List Char
  | [] => []
  | c :: rest =>
    if isBlank c && (rest.dropWhile isBlank).head? = some '#' then [] else c :: plainValue rest

/-- The value that a text begins with, and what follows it. -/
def takeValue? (text : List Char) : Option (List Char × List Char) :=
  match text with
  | '\'' :: rest => (takeQuoted? '\'' rest).map fun (body, rest) => (unescape singleEscapes body, rest)
  | '"' :: rest => (takeQuoted? '"' rest).map fun (body, rest) => (unescape doubleEscapes body, rest)
  | _ =>
    let line := text.takeWhile fun c => !isLineEnd c
    some ((plainValue line).reverse.dropWhile isBlank |>.reverse, text.drop line.length)

/-- The name that a text begins with, and what follows it; none for a comment. -/
def takeName? (text : List Char) : Option (Option (List Char) × List Char) :=
  match text with
  | '#' :: _ => some (none, text)
  | '\'' :: rest =>
    let name := rest.takeWhile (· ≠ '\'')
    match rest.drop name.length with
    | _ :: rest => if name.isEmpty then none else some (some name, rest)
    | [] => none
  | _ =>
    let name := text.takeWhile fun c => c ≠ '=' && c ≠ '#' && !isBlank c
    if name.isEmpty then none else some (some name, text.drop name.length)

/-- What follows the word `export` and white space. -/
def dropExport (text : List Char) : List Char :=
  let word := "export".toList
  if word.isPrefixOf text && (text.drop word.length).head?.any isInlineBlank then
    skipInline (text.drop word.length)
  else text

/-- What follows a comment and the line end, if nothing else stands before it. -/
def endLine? (text : List Char) : Option (List Char) :=
  let rest := skipInline text
  let rest := if rest.head? = some '#' then rest.dropWhile fun c => !isLineEnd c else rest
  if rest.head?.all isLineEnd then some (dropLineEnd rest) else none

/-- The binding that a text begins with, if it begins with one, and what follows its line. -/
def takeBinding? (text : List Char) : Option (Option Binding × List Char) := do
  let (name, rest) ← takeName? (dropExport text)
  let rest := skipInline rest
  let (value, rest) ← match rest with
    | '=' :: rest => (takeValue? (skipInline rest)).map fun (value, rest) => (some value, rest)
    | rest => some (none, rest)
  let rest ← endLine? rest
  return (name.map fun name => ⟨.ofList name, value.map String.ofList⟩, rest)

/-- The bindings of a text; `fuel` bounds the number of lines. -/
def bindingsFrom : Nat → List Char → List Binding
  | 0, _ => []
  | fuel + 1, text =>
    match text.dropWhile isBlank with
    | [] => []
    | text =>
      match takeBinding? text with
      | some (binding, rest) => binding.toList ++ bindingsFrom fuel rest
      | none => bindingsFrom fuel (nextLine text)

/-- Replace references `${name}` and `${name:-default}` by the values of variables; `fuel` bounds the length
of the text. -/
def resolve (given : Entries String (Option String)) : Nat → List Char → List Char
  | 0, text => text
  | fuel + 1, '$' :: '\x7b' :: rest =>
    let name := rest.takeWhile fun c => c ≠ '\x7d' && c ≠ ':'
    let found (default : List Char) : List Char :=
      match given.get? (.ofList name) with
      | some value => (value.getD "").toList
      | none => default
    match rest.drop name.length with
    | '\x7d' :: after => if name.isEmpty then '$' :: '\x7b' :: resolve given fuel rest
      else found [] ++ resolve given fuel after
    | ':' :: '-' :: after =>
      let default := after.takeWhile (· ≠ '\x7d')
      match after.drop default.length with
      | _ :: after => if name.isEmpty then '$' :: '\x7b' :: resolve given fuel rest
        else found default ++ resolve given fuel after
      | [] => '$' :: '\x7b' :: resolve given fuel rest
    | _ => '$' :: '\x7b' :: resolve given fuel rest
  | fuel + 1, c :: rest => c :: resolve given fuel rest
  | _, [] => []

/-- Add bindings one after another, each with the references to those before it and to the environment. -/
def resolveAll (environment : Entries String (Option String)) (resolved : Entries String (Option String)) :
    List Binding → Entries String (Option String)
  | [] => resolved
  | binding :: rest =>
    let given := environment.putAll resolved.pairs
    let value := binding.value.map fun text =>
      String.ofList (resolve given (text.length + 1) text.toList)
    resolveAll environment (resolved.put binding.name value) rest

/-- The variables that a file gives in an environment. -/
def read (environment : List (String × String)) (text : String) : Entries String (Option String) :=
  let body := unifyNewlines text.toList
  resolveAll (.ofList (environment.map fun (name, value) => (name, some value))) ∅
    (bindingsFrom (body.length + 1) body)

end Progression.Settings.Dotenv
