/-!
Bytes as text in base 64. Writing uses the alphabet that is safe in addresses and no padding; reading takes
either alphabet and the padding that completes the last group.
-/

namespace Progression.Text.Base64

/-- The letter of six bits. -/
def letter (sextet : Nat) : Char :=
  if sextet < 26 then .ofNat (65 + sextet)
  else if sextet < 52 then .ofNat (71 + sextet)
  else if sextet < 62 then .ofNat (sextet - 4)
  else if sextet = 62 then '-' else '_'

/-- The six bits of a letter of either alphabet. -/
def sextet? (c : Char) : Option Nat :=
  if 'A' ≤ c ∧ c ≤ 'Z' then some (c.toNat - 65)
  else if 'a' ≤ c ∧ c ≤ 'z' then some (c.toNat - 71)
  else if '0' ≤ c ∧ c ≤ '9' then some (c.toNat + 4)
  else if c = '-' ∨ c = '+' then some 62
  else if c = '_' ∨ c = '/' then some 63
  else none

/-- Three bytes give four letters, a rest of two or one gives three or two. -/
def encode : List UInt8 → List Char
  | [] => []
  | [a] => [letter (a.toNat / 4), letter (a.toNat % 4 * 16)]
  | [a, b] =>
    [letter (a.toNat / 4), letter (a.toNat % 4 * 16 + b.toNat / 16), letter (b.toNat % 16 * 4)]
  | a :: b :: c :: rest =>
    letter (a.toNat / 4) :: letter (a.toNat % 4 * 16 + b.toNat / 16)
      :: letter (b.toNat % 16 * 4 + c.toNat / 64) :: letter (c.toNat % 64) :: encode rest

/-- The bytes of groups of four sextets and of a rest of three or two; surplus bits are dropped. -/
def bytesOf : List Nat → List UInt8
  | a :: b :: c :: d :: rest =>
    .ofNat (a * 4 + b / 16) :: .ofNat (b % 16 * 16 + c / 4) :: .ofNat (c % 4 * 64 + d) :: bytesOf rest
  | [a, b, c] => [.ofNat (a * 4 + b / 16), .ofNat (b % 16 * 16 + c / 4)]
  | [a, b] => [.ofNat (a * 4 + b / 16)]
  | _ => []

/-- How many padding signs may follow a number of letters. A whole number of groups, but not of none, may
be followed by any number of them. -/
def paddingFits (letters signs : Nat) : Bool :=
  match letters % 4 with
  | 0 => letters ≠ 0 || signs = 0
  | 2 => signs ≤ 2
  | 3 => signs ≤ 1
  | _ => false

def decode? (text : List Char) : Option (List UInt8) :=
  let letters := text.takeWhile fun c => (sextet? c).isSome
  let padding := text.dropWhile fun c => (sextet? c).isSome
  if padding.all (· = '=') && paddingFits letters.length padding.length then
    some (bytesOf (letters.filterMap sextet?))
  else none

/-- A text by its bytes in base 64. -/
def ofText (text : String) : String := .ofList (encode text.toUTF8.toList)

/-- The text whose bytes are written in base 64. -/
def toText? (encoded : String) : Option String :=
  (decode? encoded.toList).bind fun bytes => String.fromUTF8? ⟨bytes.toArray⟩

end Progression.Text.Base64
