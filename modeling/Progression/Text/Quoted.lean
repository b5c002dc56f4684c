import Progression.Text.Printable

/-!
Texts in quotes, as messages show them. The single quote is used unless the text holds one and no double
quote; the quote in use and the backslash are escaped, and so is what cannot be shown.
-/

namespace Progression.Text

/-- The quote that needs the fewest escapes, single before double. -/
def quoteFor (points : List Nat) : Char :=
  if points.contains '\''.toNat && !points.contains '"'.toNat then '"' else '\''

/-- A number in base sixteen, in small letters and at least `width` digits. -/
def hexText (width point : Nat) : String :=
  let digits := String.ofList (Nat.toDigits 16 point)
  "".pushn '0' (width - digits.length) ++ digits

/-- The escapes that have a letter, and those of the backslash and of the quote in use. -/
def shortEscape? (quote : Char) (point : Nat) : Option String :=
  if point = quote.toNat ∨ point = '\\'.toNat then some (String.ofList ['\\', .ofNat point])
  else if point = '\n'.toNat then some "\\n"
  else if point = '\r'.toNat then some "\\r"
  else if point = '\t'.toNat then some "\\t"
  else none

/-- What stands for a code point between quotes. -/
def quotedPoint (quote : Char) (point : Nat) : String :=
  match shortEscape? quote point with
  | some escape => escape
  | none =>
    if isPrintable point then String.singleton (.ofNat point)
    else if point < 0x100 then "\\x" ++ hexText 2 point
    else if point < 0x10000 then "\\u" ++ hexText 4 point
    else "\\U" ++ hexText 8 point

/-- Code points in quotes. They may be halves of surrogate pairs, which no text holds. -/
def quotedPoints (points : List Nat) : String :=
  let quote := quoteFor points
  .join [.singleton quote, .join (points.map (quotedPoint quote)), .singleton quote]

/-- A text in quotes. -/
def quoted (text : String) : String := quotedPoints (text.toList.map Char.toNat)

/-- What stands for a byte between quotes: all but shown ASCII is escaped. -/
def quotedByte (quote : Char) (byte : Nat) : String :=
  match shortEscape? quote byte with
  | some escape => escape
  | none =>
    if 0x20 ≤ byte ∧ byte < 0x7f then String.singleton (.ofNat byte) else "\\x" ++ hexText 2 byte

/-- Bytes in quotes, marked by a letter in front. -/
def quotedBytes (bytes : List Nat) : String :=
  let quote := quoteFor bytes
  .join ["b", .singleton quote, .join (bytes.map (quotedByte quote)), .singleton quote]

/-- A list of shown items between brackets. -/
def bracketed (items : List String) : String := "[" ++ ", ".intercalate items ++ "]"

end Progression.Text
