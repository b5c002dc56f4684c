namespace Progression.Text

/-- A set of code points: ascending points, at each of which membership changes; the first one enters. -/
structure CharSet where
  changes : List Nat

/-- Walk along the changes up to a code point. -/
def CharSet.holdsFrom (inside : Bool) (point : Nat) : List Nat → Bool
  | [] => inside
  | change :: rest => if point < change then inside else holdsFrom (!inside) point rest

def CharSet.contains (set : CharSet) (point : Nat) : Bool := holdsFrom false point set.changes

end Progression.Text
