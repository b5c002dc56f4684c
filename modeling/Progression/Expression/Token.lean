import Progression.Expression.Literal
import Progression.Number.Numeral
import Progression.Text.Identifier

/-!
The tokens of expressions. Blanks and comments separate tokens; line ends do so only between brackets or
after a backslash. A text is refused as a whole if some part of it is no token.
-/

namespace Progression.Expression

open Number Text

/-- A text between quotes, before its escapes are read. -/
structure QuotedText where
  /-- The text stands for bytes. -/
  bytes : Bool
  /-- A backslash stands for itself. -/
  raw : Bool
  /-- Braces hold expressions. -/
  formatted : Bool
  body : List Char

inductive Token where
  | number (value : Literal)
  | quoted (text : QuotedText)
  | word (text : String)
  | mark (text : String)

/-- The letters that may begin a word; others than ASCII are judged with the whole word. -/
def opensWord (c : Char) : Bool := c.isAlpha || c = '_' || 128 ≤ c.toNat

def continuesWord (c : Char) : Bool := c.isAlphanum || c = '_' || 128 ≤ c.toNat

/-- Marks, each before those that it begins with. -/
def marks : List String := [
  "...", "**", "//", "<<", ">>", "<=", ">=", "==", "!=", ":=", "+", "-", "*", "/", "%", "@", "&", "|",
  "~", "<", ">", "(", ")", "[", "]", "\x7b", "\x7d", ",", ":", ".", "="]

/-- The words that may follow a number without a blank between. -/
def wordsAfterNumber : List String := ["and", "else", "for", "if", "in", "is", "or"]

/-- Whether a number may end where `rest` begins. -/
def numberEnds (rest : List Char) : Bool :=
  !(rest.head?.any continuesWord) || wordsAfterNumber.any fun word => word.toList.isPrefixOf rest

/-- The value of a binary or octal digit. -/
def digitBelow? (base : Nat) (c : Char) : Option Nat := (asciiDigit? c).filter (· < base)

/-- An integer after a letter that names its base. An underscore may come first. -/
def takeBased? (value? : Char → Option Nat) (base : Nat) (text : List Char) :
    Option (Literal × List Char) :=
  let body := match text with
    | '_' :: rest => rest
    | _ => text
  match takeDigits value? body with
  | ([], _) => none
  | (digits, rest) => some (.int (ofDigits base digits), rest)

/-- A number in base ten: with a point or an exponent it is a decimal, and a last letter makes it
imaginary. Integers do not begin with a zero, unless all their digits are zeros. -/
def takeNumber? (text : List Char) : Option (Literal × List Char) := do
  let (digits, afterDigits) := takeDigits asciiDigit? text
  let (significand, exponent, rest) ← takeDecimal? asciiDigit? text
  let whole := rest.length = afterDigits.length
  match rest with
  | c :: afterLetter =>
    if c = 'j' ∨ c = 'J' then
      return (.imaginary (ofDecimal false significand exponent), afterLetter)
  | [] => pure ()
  if !whole then return (.float (ofDecimal false significand exponent), rest)
  let value := ofDigits 10 digits
  if value ≠ 0 ∧ (digits.head? = some 0 ∨ maxIntegerDigits < digits.length) then none
  return (.int value, rest)

/-- A number in any base. -/
def takeLiteral? : List Char → Option (Literal × List Char)
  | '0' :: c :: rest =>
    if c = 'x' ∨ c = 'X' then takeBased? hexDigit? 16 rest
    else if c = 'o' ∨ c = 'O' then takeBased? (digitBelow? 8) 8 rest
    else if c = 'b' ∨ c = 'B' then takeBased? (digitBelow? 2) 2 rest
    else takeNumber? ('0' :: c :: rest)
  | text => takeNumber? text

/-- The text up to the closing quotes, and what follows them. A backslash keeps the next character; a line
end is allowed between triple quotes only. -/
def takeQuoted? (quote : Char) (triple : Bool) : List Char → Option (List Char × List Char)
  | '\\' :: c :: rest => do
    let (body, rest) ← takeQuoted? quote triple rest
    return ('\\' :: c :: body, rest)
  | c :: rest =>
    if c = quote ∧ (!triple ∨ [quote, quote].isPrefixOf rest) then
      some ([], if triple then rest.drop 2 else rest)
    else if c = '\n' ∧ !triple then none
    else do
      let (body, rest) ← takeQuoted? quote triple rest
      return (c :: body, rest)
  | [] => none

/-- The text that an opening quote begins, and what follows it. -/
def takeText? (text : List Char) : Option (List Char × List Char) :=
  match text with
  | quote :: rest =>
    if [quote, quote].isPrefixOf rest then takeQuoted? quote true (rest.drop 2)
    else takeQuoted? quote false rest
  | [] => none

/-- What the letters before an opening quote say. -/
def textKind? (letters : List Char) : Option (List Char → QuotedText) :=
  match letters.map Char.toLower with
  | [] | ['u'] => some (⟨false, false, false, ·⟩)
  | ['b'] => some (⟨true, false, false, ·⟩)
  | ['r'] => some (⟨false, true, false, ·⟩)
  | ['f'] => some (⟨false, false, true, ·⟩)
  | ['b', 'r'] | ['r', 'b'] => some (⟨true, true, false, ·⟩)
  | ['f', 'r'] | ['r', 'f'] => some (⟨false, true, true, ·⟩)
  | _ => none

def isQuote (c : Char) : Bool := c = '\'' || c = '"'

/-- The token that a text begins with, and what follows it. -/
def takeToken? (text : List Char) : Option (Token × List Char) := do
  let c ← text.head?
  if opensWord c then
    let word := text.takeWhile continuesWord
    let rest := text.dropWhile continuesWord
    match textKind? word with
    | some kind =>
      if rest.head?.any isQuote then
        let (body, rest) ← takeText? rest
        return (.quoted (kind body), rest)
    | none => pure ()
    guard (isIdentifier word)
    return (.word (.ofList word), rest)
  if isQuote c then
    let (body, rest) ← takeText? text
    return (.quoted ⟨false, false, false, body⟩, rest)
  if c.isDigit || (c = '.' && (text.drop 1).head?.any Char.isDigit) then
    let (value, rest) ← takeLiteral? text
    guard (numberEnds rest)
    return (.number value, rest)
  let mark ← marks.find? fun mark => mark.toList.isPrefixOf text
  return (.mark mark, text.drop mark.length)

/-- Brackets nest at most this deep. -/
def maxDepth : Nat := 200

/-- The depth of brackets after a token, if it is not too great. -/
def depthAfter? (depth : Nat) : Token → Option Nat
  | .mark "(" | .mark "[" | .mark "\x7b" => if depth < maxDepth then some (depth + 1) else none
  | .mark ")" | .mark "]" | .mark "\x7d" => some (depth - 1)
  | _ => some depth

/-- Whether nothing but blanks and comments follows. -/
def onlyComments : List Char → Bool
  | text => (text.splitOnP (· = '\n')).all fun line =>
    match line.dropWhile fun c => c = ' ' || c = '\t' || c = '\x0c' with
    | [] => true
    | c :: _ => c = '#'

/-- The tokens of a text from a depth of brackets on; `fuel` bounds their number. -/
def tokensFrom? : Nat → Nat → List Char → Option (List Token)
  | 0, _, _ => none
  | _, _, [] => some []
  | fuel + 1, depth, c :: rest =>
    if c = ' ' ∨ c = '\t' ∨ c = '\x0c' then tokensFrom? fuel depth rest
    else if c = '#' then tokensFrom? fuel depth (rest.dropWhile (· ≠ '\n'))
    else if c = '\n' then
      if 0 < depth then tokensFrom? fuel depth rest
      else if onlyComments rest then some [] else none
    else if c = '\\' then
      match rest with
      | '\n' :: d :: rest => tokensFrom? fuel depth (d :: rest)
      | _ => none
    else do
      let (token, rest) ← takeToken? (c :: rest)
      let depth ← depthAfter? depth token
      return token :: (← tokensFrom? fuel depth rest)

/-- A text that begins with a backslash and a line end has no blank after them. -/
def beginsLevel : List Char → Bool
  | '\\' :: '\n' :: c :: rest => c ≠ ' ' && c ≠ '\t' && beginsLevel (c :: rest)
  | _ => true

/-- The tokens of a text. -/
def tokens? (text : List Char) : Option (List Token) :=
  if beginsLevel text then tokensFrom? (text.length + 1) 0 text else none

end Progression.Expression
