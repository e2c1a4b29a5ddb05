/-!
Tables of code points as inclusive ranges in ascending order.
-/
namespace Survey.Text

/-- Whether a number lies in one of the ranges. The ranges ascend, so the search stops early. -/
def inRanges (n : Nat) : List (Nat × Nat) → Bool
  | [] => false
  | (lo, hi) :: rest => if n < lo then false else n ≤ hi || inRanges n rest

end Survey.Text
