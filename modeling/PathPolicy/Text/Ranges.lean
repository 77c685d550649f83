/-! Sets of code points written as inclusive ranges in ascending order. -/

namespace PathPolicy.Text

abbrev Ranges := List (Nat × Nat)

/-- A search from the lowest range that stops at the first range above `n`. -/
def Ranges.holds : Ranges → Nat → Bool
  | [], _ => false
  | (lo, hi) :: rest, n => if n < lo then false else n ≤ hi || Ranges.holds rest n

end PathPolicy.Text
