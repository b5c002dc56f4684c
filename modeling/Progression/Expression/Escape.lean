import Progression.Expression.Token

namespace Progression.Expression

open Text

/-- The escapes of one letter. -/
def letterEscapes : List (Char × Nat) := [
  ('\\', 0x5c), ('\'', 0x27), ('"', 0x22), ('a', 0x07), ('b', 0x08), ('f', 0x0c), ('n', 0x0a),
  ('r', 0x0d), ('t', 0x09), ('v', 0x0b)]

/-- A number written by exactly `count` digits of base sixteen, and what follows it. -/
def takeHex? (count : Nat) (text : List Char) : Option (Nat × List Char) := do
  let digits := (text.take count).filterMap hexDigit?
  guard (digits.length = count)
  return (ofDigits 16 digits, text.drop count)

/-- A number written by up to three octal digits, and what follows it. -/
def takeOctal (text : List Char) : Nat × List Char :=
  let digits := (text.take 3).takeWhile fun c => (digitBelow? 8 c).isSome
  (ofDigits 8 (digits.filterMap (digitBelow? 8)), text.drop digits.length)

/-- What an escape stands for, by what follows its backslash. Escapes of code points are for texts only.
An unknown escape stands for itself with its backslash, and so does a last backslash. -/
def takeEscape? (bytes : Bool) : List Char → Option (List Nat × List Char)
  | [] => some ([0x5c], [])
  | '\n' :: rest => some ([], rest)
  | c :: rest =>
    match letterEscapes.lookup c with
    | some point => some ([point], rest)
    | none =>
      if (digitBelow? 8 c).isSome then
        let (point, rest) := takeOctal (c :: rest)
        some ([if bytes then point % 256 else point], rest)
      else if c = 'x' then (takeHex? 2 rest).map fun (point, rest) => ([point], rest)
      else if bytes then some ([0x5c, c.toNat], rest)
      else if c = 'u' then (takeHex? 4 rest).map fun (point, rest) => ([point], rest)
      else if c = 'U' then do
        let (point, rest) ← takeHex? 8 rest
        guard (point ≤ 0x10ffff)
        return ([point], rest)
      else if c = 'N' then none
      else some ([0x5c, c.toNat], rest)

/-- The code points or bytes that a body with escapes stands for; `fuel` bounds the length of the body. -/
def pointsFrom? (bytes : Bool) : Nat → List Char → Option (List Nat)
  | 0, _ => none
  | _, [] => some []
  | fuel + 1, c :: rest =>
    if c = '\\' then do
      let (points, rest) ← takeEscape? bytes rest
      return points ++ (← pointsFrom? bytes fuel rest)
    else do return c.toNat :: (← pointsFrom? bytes fuel rest)

/-- The code points or bytes that a body stands for. Bytes are written in ASCII. -/
def bodyPoints? (bytes raw : Bool) (body : List Char) : Option (List Nat) :=
  if bytes && body.any (128 ≤ ·.toNat) then none
  else if raw then some (body.map Char.toNat)
  else pointsFrom? bytes (body.length + 1) body

/-- A bracket that closes another. -/
def closes (opening closing : Char) : Bool :=
  (opening, closing) ∈ [('(', ')'), ('[', ']'), ('\x7b', '\x7d')]

/-- The state of the walk along an expression between braces. -/
structure Nesting where
  /-- The open brackets, innermost first. -/
  brackets : List Char
  /-- The quotes that will end the text that the walk is in. -/
  quotes : List Char

/-- The expression up to the mark that ends it between braces, in reverse before `seen`, and what follows.
Backslashes and comments are not allowed in it. -/
def takeBraced? : Nat → Nesting → List Char → List Char → Option (List Char × List Char)
  | 0, _, _, _ => none
  | _, _, _, [] => none
  | fuel + 1, nesting, seen, c :: rest =>
    if c = '\\' then none
    else if !nesting.quotes.isEmpty then
      if nesting.quotes.isPrefixOf (c :: rest) then
        takeBraced? fuel { nesting with quotes := [] } (nesting.quotes ++ seen)
          ((c :: rest).drop nesting.quotes.length)
      else takeBraced? fuel nesting (c :: seen) rest
    else if isQuote c then
      if [c, c].isPrefixOf rest then
        takeBraced? fuel { nesting with quotes := [c, c, c] } (c :: c :: c :: seen) (rest.drop 2)
      else takeBraced? fuel { nesting with quotes := [c] } (c :: seen) rest
    else if c = '(' ∨ c = '[' ∨ c = '\x7b' then
      if nesting.brackets.length < maxDepth then
        takeBraced? fuel { nesting with brackets := c :: nesting.brackets } (c :: seen) rest
      else none
    else if c = '#' then none
    else
      match nesting.brackets with
      | [] =>
        if c = '!' ∨ c = '=' ∨ c = '<' ∨ c = '>' then
          if rest.head? = some '=' then takeBraced? fuel nesting ('=' :: c :: seen) (rest.drop 1)
          else if c = '<' ∨ c = '>' then takeBraced? fuel nesting (c :: seen) rest
          else some (seen.reverse, c :: rest)
        else if c = ':' ∨ c = '\x7d' then some (seen.reverse, c :: rest)
        else if c = ')' ∨ c = ']' then none
        else takeBraced? fuel nesting (c :: seen) rest
      | opening :: outer =>
        if c = ')' ∨ c = ']' ∨ c = '\x7d' then
          if closes opening c then
            takeBraced? fuel { nesting with brackets := outer } (c :: seen) rest
          else none
        else takeBraced? fuel nesting (c :: seen) rest

/-- White space of ASCII. -/
def isPlainBlank (c : Char) : Bool := c = ' ' || ('\t' ≤ c && c ≤ '\r')

/-- The mark that shows an expression with its value, and the blanks after it. -/
def dropShown : List Char → List Char
  | '=' :: rest => rest.dropWhile isPlainBlank
  | rest => rest

/-- The conversion that may follow an expression. -/
def dropConversion? : List Char → Option (List Char)
  | '!' :: c :: rest => if c = 's' ∨ c = 'r' ∨ c = 'a' then some rest else none
  | '!' :: [] => none
  | rest => some rest

/-- The stretch of a body before the next brace that is not doubled. Inside a layout braces are never
doubled. The stretch keeps its escapes. -/
def takeStretch? (raw inLayout : Bool) : List Char → Option (List Char × List Char)
  | [] => some ([], [])
  | '\\' :: c :: rest =>
    if raw ∨ c = '\x7b' ∨ c = '\x7d' then do
      let (stretch, rest) ← takeStretch? raw inLayout (c :: rest)
      return ('\\' :: stretch, rest)
    else do
      let (stretch, rest) ← takeStretch? raw inLayout rest
      return ('\\' :: c :: stretch, rest)
  | c :: rest =>
    if c = '\x7b' ∨ c = '\x7d' then
      if inLayout then some ([], c :: rest)
      else
        match rest with
        | d :: rest =>
          if d = c then do
            let (stretch, rest) ← takeStretch? raw inLayout rest
            return (c :: stretch, rest)
          else if c = '\x7d' then none
          else some ([], c :: d :: rest)
        | [] => if c = '\x7d' then none else some ([], [c])
    else do
      let (stretch, rest) ← takeStretch? raw inLayout rest
      return (c :: stretch, rest)

/-- The expressions between the braces of a body, and what follows it; a layout after a colon may hold
expressions itself, but not theirs. -/
def bracedFrom? (raw : Bool) : Nat → Nat → List Char → Option (List (List Char) × List Char)
  | 0, _, _ => none
  | fuel + 1, depth, text => do
    let (stretch, rest) ← takeStretch? raw (0 < depth) text
    guard (bodyPoints? false raw stretch).isSome
    match rest with
    | '\x7b' :: rest =>
      guard (depth < 2)
      let (expression, rest) ← takeBraced? (rest.length + 1) ⟨[], []⟩ [] rest
      guard (!expression.all isPlainBlank)
      let rest ← dropConversion? (dropShown rest)
      let (inner, rest) ← match rest with
        | ':' :: rest => bracedFrom? raw fuel (depth + 1) rest
        | rest => some ([], rest)
      match rest with
      | '\x7d' :: rest =>
        let (others, rest) ← bracedFrom? raw fuel depth rest
        return (expression :: (inner ++ others), rest)
      | _ => none
    | rest => return ([], rest)

/-- The expressions between the braces of a body. -/
def braced? (raw : Bool) (body : List Char) : Option (List (List Char)) :=
  match bracedFrom? raw (2 * body.length + 2) 0 body with
  | some (expressions, []) => some expressions
  | _ => none

end Progression.Expression
