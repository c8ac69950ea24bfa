/-!
# Sets of code points

A set of code points is written as the ascending list of the code points at
which membership changes: the set starts at the first, stops before the second,
starts again at the third, and so on.
-/

namespace EntityLink

/-- A set of code points, by the ascending code points at which membership
changes. -/
structure CodeSet where
  boundaries : List Nat

namespace CodeSet

/-- Says whether a code point lies between an odd and the next even boundary. -/
def holds (code : Nat) : List Nat → Bool
  | [] => false
  | [start] => start ≤ code
  | start :: stop :: rest => start ≤ code && (code < stop || holds code rest)

def contains (set : CodeSet) (character : Char) : Bool :=
  holds character.toNat set.boundaries

end CodeSet

end EntityLink
