import Progression.Number.Binary
import Progression.Text.Blank
import Progression.Text.Digit

namespace Progression.Number

open Progression.Text

/-- A text without the white space around the number. The separators U+001C to U+001F count as characters of
the number, and so spoil it. -/
def numeralBody (text : List Char) : List Char := trimBy isSpace text

/-- A sign in front, and what follows it. -/
def takeSign : List Char → Bool × List Char
  | '-' :: rest => (true, rest)
  | '+' :: rest => (false, rest)
  | rest => (false, rest)

/-- A run of digits, and what follows it. A single underscore may stand between two digits; `after` says
that a digit stands just before. -/
def digitsFrom (value? : Char → Option Nat) (after : Bool) : List Char → List Nat × List Char
  | [] => ([], [])
  | c :: rest =>
    match value? c with
    | some digit =>
      let (digits, remaining) := digitsFrom value? true rest
      (digit :: digits, remaining)
    | none =>
      if after && c = '_' && (rest.head?.bind value?).isSome then digitsFrom value? false rest
      else ([], c :: rest)

/-- A run of digits that begins with a digit, and what follows it. -/
def takeDigits (value? : Char → Option Nat) (text : List Char) : List Nat × List Char :=
  digitsFrom value? false text

/-- Longer integers in base ten are refused. -/
def maxIntegerDigits : Nat := 4300

/-- The integer that a text writes. -/
def readInt? (text : List Char) : Option Int :=
  let (negative, body) := takeSign (numeralBody text)
  match takeDigits digitValue? body with
  | ([], _) => none
  | (digits, []) =>
    if maxIntegerDigits < digits.length then none
    else
      let magnitude := ofDigits 10 digits
      some (if negative then -magnitude else magnitude)
  | _ => none

/-- The exponent that may end a decimal, and what follows it; zero if there is none. -/
def takeExponent (value? : Char → Option Nat) (text : List Char) : Int × List Char :=
  match text with
  | mark :: rest =>
    if mark = 'e' ∨ mark = 'E' then
      let (negative, digits) := takeSign rest
      match takeDigits value? digits with
      | ([], _) => (0, text)
      | (digits, rest) =>
        let magnitude := ofDigits 10 digits
        (if negative then -magnitude else magnitude, rest)
    else (0, text)
  | [] => (0, [])

/-- Digits with an optional fraction and exponent, as an integer and the power of ten that it counts; at
least one digit stands before or after the point. -/
def takeDecimal? (value? : Char → Option Nat) (text : List Char) : Option (Nat × Int × List Char) :=
  let (whole, rest) := takeDigits value? text
  let (fraction, rest) :=
    match rest with
    | '.' :: rest => takeDigits value? rest
    | rest => ([], rest)
  if whole.isEmpty && fraction.isEmpty then none
  else
    let (exponent, rest) := takeExponent value? rest
    some (ofDigits 10 (whole ++ fraction), exponent - fraction.length, rest)

/-- The number that a text writes: a decimal, or a word for infinity or for the undefined number. -/
def readFloat? (text : List Char) : Option Float :=
  let (negative, body) := takeSign (numeralBody text)
  let word := String.ofList (body.map Char.toLower)
  if word = "inf" ∨ word = "infinity" then some (ofFraction negative (.pow 10 400) 1)
  else if word = "nan" then some (0.0 / 0.0)
  else
    match takeDecimal? digitValue? body with
    | some (digits, exponent, []) => some (ofDecimal negative digits exponent)
    | _ => none

end Progression.Number
