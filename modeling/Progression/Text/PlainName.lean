import Progression.Text.Decomposition

/-!
The plain form of names. A name is written in parts with plain characters, its marks are put in order, and the
parts are put together again; two names with one plain form are one name.
-/

namespace Progression.Text

/-- The parts of a syllable of Hangul, if a code point is one. -/
def hangulParts? (point : Nat) : Option (List Nat) :=
  if 0xac00 ≤ point ∧ point < 0xd7a4 then
    let index := point - 0xac00
    let last := if index % 28 = 0 then [] else [0x11a7 + index % 28]
    some ([0x1100 + index / 588, 0x1161 + index % 588 / 28] ++ last)
  else none

/-- What a code point decomposes into at once, if it does. -/
def partsOf? (point : Nat) : Option (List Nat) :=
  (hangulParts? point).or
    (((canonicalMappings.find? (·.contains point)).or (compatibleMappings.find? (·.contains point))).map
      (·.imageOf point))

/-- What a code point decomposes into in the end; decompositions nest less deep than `fuel`. -/
def decompose : Nat → Nat → List Nat
  | 0, point => [point]
  | fuel + 1, point =>
    match partsOf? point with
    | none => [point]
    | some parts => parts.flatMap (decompose fuel)

/-- The depth to which decompositions nest. -/
def maxNesting : Nat := 8

/-- The combining class of a code point; that of letters is zero. -/
def markClass (point : Nat) : Nat :=
  ((markClasses.find? (·.contains point)).bind (·.image.head?)).getD 0

/-- Put a mark before the marks of greater classes that begin a list. -/
def insertMark (mark : Nat) : List Nat → List Nat
  | [] => [mark]
  | next :: rest =>
    if 0 < markClass next ∧ markClass next < markClass mark then next :: insertMark mark rest
    else mark :: next :: rest

/-- Put the marks after each letter in the order of their classes; those of one class keep their order. -/
def orderMarks : List Nat → List Nat
  | [] => []
  | point :: rest => if markClass point = 0 then point :: orderMarks rest else insertMark point (orderMarks rest)

/-- The syllable of Hangul that two parts make. -/
def hangulOf? (first second : Nat) : Option Nat :=
  if 0x1100 ≤ first ∧ first < 0x1113 ∧ 0x1161 ≤ second ∧ second < 0x1176 then
    some (0xac00 + ((first - 0x1100) * 21 + (second - 0x1161)) * 28)
  else if 0xac00 ≤ first ∧ first < 0xd7a4 ∧ (first - 0xac00) % 28 = 0 ∧ 0x11a7 < second ∧ second < 0x11c3 then
    some (first + (second - 0x11a7))
  else none

/-- The code point that two make. -/
def wholeOf? (first second : Nat) : Option Nat :=
  (hangulOf? first second).or
    (((canonicalMappings.filter fun mapping => mapping.image = [first, second]).map Mapping.first).find? fun whole =>
      !keptApart.any (·.contains whole))

/-- Put code points together with a letter and the marks after it that stay, given in order. A mark reaches the
letter if no mark between has its class. -/
def composeFrom (letter : Nat) (marks : List Nat) : List Nat → List Nat
  | [] => letter :: marks
  | point :: rest =>
    let reaches := match marks.getLast? with
      | none => true
      | some last => markClass last < markClass point
    match if reaches then wholeOf? letter point else none with
    | some whole => composeFrom whole marks rest
    | none =>
      if markClass point = 0 then letter :: marks ++ composeFrom point [] rest
      else composeFrom letter (marks ++ [point]) rest

/-- Put code points together. -/
def compose : List Nat → List Nat
  | [] => []
  | point :: rest => composeFrom point [] rest

/-- The plain form of a name. -/
def plainName (name : String) : String :=
  if name.toList.all fun c => c.toNat < 128 then name
  else
    let parts := name.toList.flatMap fun c => decompose maxNesting c.toNat
    .ofList ((compose (orderMarks parts)).map Char.ofNat)

end Progression.Text
