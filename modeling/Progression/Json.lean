import Progression.Entries
import Progression.Number.Numeral
import Progression.Value

/-!
Reading values from JSON text. Numbers without fraction and exponent are integers, the words for infinity
and for the undefined number are admitted, and of equal keys the last one counts.
-/

namespace Progression.Json

open Number Text

def isSpace (c : Char) : Bool := c = ' ' || c = '\t' || c = '\n' || c = '\r'

def skipSpace (text : List Char) : List Char := text.dropWhile isSpace

/-- The characters after a backslash that stand for one character. -/
def escapes : List (Char × Char) := [
  ('"', '"'), ('\\', '\\'), ('/', '/'), ('b', '\x08'), ('f', '\x0c'), ('n', '\n'), ('r', '\r'),
  ('t', '\t')]

/-- Four digits of base sixteen, and what follows them. -/
def takeUnit? (text : List Char) : Option (Nat × List Char) := do
  let digits := (text.take 4).filterMap hexDigit?
  guard (digits.length = 4)
  return (ofDigits 16 digits, text.drop 4)

/-- The character of an escaped unit; two units make one character if they are halves of a pair. A half
without the other becomes the replacement character. -/
def takePair? (text : List Char) : Option (Char × List Char) := do
  let (unit, rest) ← takeUnit? text
  if 0xd800 ≤ unit ∧ unit < 0xdc00 then
    match rest with
    | '\\' :: 'u' :: second =>
      let (low, afterPair) ← takeUnit? second
      if 0xdc00 ≤ low ∧ low < 0xe000 then
        return (.ofNat (0x10000 + (unit - 0xd800) * 0x400 + (low - 0xdc00)), afterPair)
      else return ('\ufffd', rest)
    | _ => return ('\ufffd', rest)
  else if 0xdc00 ≤ unit ∧ unit < 0xe000 then return ('\ufffd', rest)
  else return (.ofNat unit, rest)

/-- A text after its opening quote, and what follows its closing one; `fuel` bounds its length. -/
def textFrom? : Nat → List Char → Option (List Char × List Char)
  | 0, _ => none
  | _, [] => none
  | fuel + 1, c :: rest => do
    if c = '"' then return ([], rest)
    else if c = '\\' then
      let (escaped, rest) ← match rest with
        | 'u' :: rest => takePair? rest
        | c :: rest => (escapes.lookup c).map (·, rest)
        | [] => none
      let (others, rest) ← textFrom? fuel rest
      return (escaped :: others, rest)
    else
      guard (' ' ≤ c)
      let (others, rest) ← textFrom? fuel rest
      return (c :: others, rest)

def takeText? (text : List Char) : Option (String × List Char) :=
  (textFrom? (text.length + 1) text).map fun (body, rest) => (.ofList body, rest)

/-- The digits that a text begins with, and what follows them. -/
def digitsOf (text : List Char) : List Char × List Char := (text.takeWhile Char.isDigit, text.dropWhile Char.isDigit)

/-- The fraction of a number, if one follows. -/
def takeFraction (text : List Char) : List Char × List Char :=
  match text with
  | '.' :: rest =>
    match digitsOf rest with
    | ([], _) => ([], text)
    | (digits, rest) => ('.' :: digits, rest)
  | _ => ([], text)

/-- The exponent of a number, if one follows. -/
def takeExponent (text : List Char) : List Char × List Char :=
  match text with
  | mark :: rest =>
    if mark = 'e' ∨ mark = 'E' then
      let (sign, afterSign) := match rest with
        | '+' :: rest => (['+'], rest)
        | '-' :: rest => (['-'], rest)
        | rest => ([], rest)
      match digitsOf afterSign with
      | ([], _) => ([], text)
      | (digits, rest) => (mark :: (sign ++ digits), rest)
    else ([], text)
  | [] => ([], [])

/-- A number; its whole part has no leading zero. -/
def takeNumber? (text : List Char) : Option (Value × List Char) := do
  let (sign, body) := match text with
    | '-' :: rest => (['-'], rest)
    | rest => ([], rest)
  let (whole, rest) := match body with
    | '0' :: rest => (['0'], rest)
    | body => digitsOf body
  guard (!whole.isEmpty)
  let (fraction, rest) := takeFraction rest
  let (exponent, rest) := takeExponent rest
  let written := sign ++ whole ++ fraction ++ exponent
  if fraction.isEmpty && exponent.isEmpty then return (.int (← readInt? written), rest)
  else return (.float (← readFloat? written), rest)

/-- The words that are values. -/
def words : List (String × Value) := [
  ("null", .null), ("true", .bool true), ("false", .bool false), ("NaN", .float (0.0 / 0.0)),
  ("Infinity", .float (1.0 / 0.0)), ("-Infinity", .float (-1.0 / 0.0))]

def takeWord? (text : List Char) : Option (Value × List Char) :=
  words.findSome? fun (word, value) =>
    if word.toList.isPrefixOf text then some (value, text.drop word.length) else none

mutual

/-- A value without space before it, and what follows it; `fuel` bounds the number of calls. -/
def valueFrom? : Nat → List Char → Option (Value × List Char)
  | 0, _ => none
  | _, [] => none
  | fuel + 1, c :: rest => do
    if c = '"' then
      let (text, rest) ← takeText? rest
      return (.text text, rest)
    else if c = '[' then
      match skipSpace rest with
      | ']' :: rest => return (.list [], rest)
      | rest =>
        let (items, rest) ← itemsFrom? fuel rest
        return (.list items, rest)
    else if c = '\x7b' then
      match skipSpace rest with
      | '\x7d' :: rest => return (.map [], rest)
      | rest =>
        let (entries, rest) ← entriesFrom? fuel rest
        return (.map (Entries.ofList entries).pairs, rest)
    else
      match takeWord? (c :: rest) with
      | some found => return found
      | none => takeNumber? (c :: rest)

/-- The items of a list up to and with its closing bracket. -/
def itemsFrom? : Nat → List Char → Option (List Value × List Char)
  | 0, _ => none
  | fuel + 1, text => do
    let (value, rest) ← valueFrom? fuel (skipSpace text)
    match skipSpace rest with
    | ',' :: rest =>
      let (others, rest) ← itemsFrom? fuel rest
      return (value :: others, rest)
    | ']' :: rest => return ([value], rest)
    | _ => none

/-- The entries of a map up to and with its closing brace. -/
def entriesFrom? : Nat → List Char → Option (List (String × Value) × List Char)
  | 0, _ => none
  | fuel + 1, text => do
    match skipSpace text with
    | '"' :: rest =>
      let (key, rest) ← takeText? rest
      match skipSpace rest with
      | ':' :: rest =>
        let (value, rest) ← valueFrom? fuel (skipSpace rest)
        match skipSpace rest with
        | ',' :: rest =>
          let (others, rest) ← entriesFrom? fuel rest
          return ((key, value) :: others, rest)
        | '\x7d' :: rest => return ([(key, value)], rest)
        | _ => none
      | _ => none
    | _ => none

end

/-- The value that a text writes, with nothing but space around it. -/
def read? (text : List Char) : Option Value := do
  let (value, rest) ← valueFrom? (2 * text.length + 2) (skipSpace text)
  guard (skipSpace rest).isEmpty
  return value

end Progression.Json
