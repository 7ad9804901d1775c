/-!
# Ranges of code points

A property of characters is kept as the increasing list of the ranges that have it. Membership
walks the list and stops at the first range that lies beyond the character.
-/

namespace SqlTree.Text

/-- The code points from `first` to `last`, both included. -/
structure CodeRange where
  first : Nat
  last : Nat
deriving DecidableEq, Repr

/-- Whether a code point lies in one of the ranges of an increasing list. -/
def covers : List CodeRange → Nat → Bool
  | [], _ => false
  | range :: ranges, code =>
    if code < range.first then false else code ≤ range.last || covers ranges code

end SqlTree.Text
