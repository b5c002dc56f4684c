import Progression.Text.CharSet

namespace Progression.Text

def blankSet : CharSet where
  changes := [
    0x9, 0xe, 0x1c, 0x21, 0x85, 0x86, 0xa0, 0xa1, 0x1680, 0x1681, 0x2000, 0x200b, 0x2028, 0x202a,
    0x202f, 0x2030, 0x205f, 0x2060, 0x3000, 0x3001]

def isBlank (c : Char) : Bool := blankSet.contains c.toNat

/-- White space as Unicode has it, without the separators. -/
def isSpace (c : Char) : Bool := isBlank c && !('\x1c' ≤ c && c ≤ '\x1f')

/-- Drop from both ends what a class admits. -/
def trimBy (drop : Char → Bool) (text : List Char) : List Char :=
  ((text.dropWhile drop).reverse.dropWhile drop).reverse

/-- A text without the white space at its ends. -/
def strip (text : List Char) : List Char := trimBy isBlank text

end Progression.Text
