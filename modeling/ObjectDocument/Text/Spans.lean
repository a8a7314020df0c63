/-!
# Sets of code points

The character classes of this library are data of the Unicode standard. A class is written as the
ascending list of the code points at which membership changes, so a character belongs to it when
an odd number of those points lie at or below it.
-/

namespace ObjectDocument.Text

/-- A set of code points, given by the ascending points where membership changes. -/
structure Spans where
  /-- The first code points of the runs inside and outside the set, in turn. -/
  bounds : List Nat

namespace Spans

/-- Walk the boundaries up to `n`, flipping membership at each. -/
def memberAfter (n : Nat) : Bool → List Nat → Bool
  | inside, [] => inside
  | inside, b :: bs => if b ≤ n then memberAfter n (!inside) bs else inside

def contains (s : Spans) (c : Char) : Bool :=
  memberAfter c.toNat false s.bounds

end Spans

end ObjectDocument.Text
