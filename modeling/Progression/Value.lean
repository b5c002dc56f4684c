import Progression.Number.Shortest
import Progression.Number.Numeral
import Progression.Text.Quoted

/-!
Values as they stand in configuration, where a number may be given as an integer, as a decimal or as text.
The kind of a value matters: parameters are checked for it, and messages show it.
-/

namespace Progression

open Number Text

inductive Value where
  | null
  | bool (value : Bool)
  | int (value : Int)
  | float (value : Float)
  | text (value : String)
  | list (items : List Value)
  | map (entries : List (String × Value))

namespace Value

mutual

/-- A value as messages show it. -/
def display : Value → String
  | null => "None"
  | bool value => if value then "True" else "False"
  | int value => toString value
  | float value => shortest value
  | text value => quoted value
  | list items => bracketed (displayAll items)
  | map entries => "\x7b" ++ ", ".intercalate (displayEntries entries) ++ "\x7d"

def displayAll : List Value → List String
  | [] => []
  | item :: rest => item.display :: displayAll rest

def displayEntries : List (String × Value) → List String
  | [] => []
  | (key, value) :: rest => (quoted key ++ ": " ++ value.display) :: displayEntries rest

end

/-- Why a value is no number of the machine. -/
inductive NotANumber where
  /-- The value is of a kind that denotes no number. -/
  | notNumeric
  /-- The value is a text that writes no number. -/
  | unreadable
  /-- The value is an integer past the finite range. -/
  | tooLarge
  deriving DecidableEq, Repr

/-- The number that a value denotes; truth values count as one and zero. -/
def toFloat : Value → Except NotANumber Float
  | bool value => .ok (if value then 1 else 0)
  | int value => (ofInt? value).elim (.error .tooLarge) .ok
  | float value => .ok value
  | text value => (readFloat? value.toList).elim (.error .unreadable) .ok
  | _ => .error .notNumeric

/-- The integer that a value equals, if it is given as an integer or as a truth value. -/
def integer? : Value → Option Int
  | bool value => some (if value then 1 else 0)
  | int value => some value
  | _ => none

mutual

/-- Equality of values: numbers are compared by what they denote, whichever way they are given. -/
def agrees : Value → Value → Bool
  | null, null => true
  | text a, text b => a == b
  | list a, list b => agreeAll a b
  | map a, map b => agreeEntries a b
  | float a, float b => a == b
  | float a, b => b.integer?.any (eqInt a)
  | a, float b => a.integer?.any (eqInt b)
  | a, b => a.integer?.isSome && a.integer? == b.integer?

def agreeAll : List Value → List Value → Bool
  | [], [] => true
  | a :: restA, b :: restB => a.agrees b && agreeAll restA restB
  | _, _ => false

def agreeEntries : List (String × Value) → List (String × Value) → Bool
  | [], [] => true
  | (keyA, a) :: restA, (keyB, b) :: restB => keyA == keyB && a.agrees b && agreeEntries restA restB
  | _, _ => false

end

/-- Whether a value is given as a number: an integer or a decimal, but not a truth value. -/
def isNumber : Value → Bool
  | int _ => true
  | float _ => true
  | _ => false

end Value

end Progression
