namespace TypeGuard.Text

/-- Whether a sorted list of closed ranges contains `n`. -/
def inRanges : List (Nat × Nat) → Nat → Bool
  | [], _ => false
  | (lo, hi) :: ranges, n => if n < lo then false else n ≤ hi || inRanges ranges n

end TypeGuard.Text
