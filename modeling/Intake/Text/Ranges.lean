namespace Intake.Text

/-- Whether a scalar value lies in one of the ranges, which are listed in increasing order. -/
def inRanges (c : Nat) : List (Nat × Nat) → Bool
  | [] => false
  | (low, high) :: rest => if c < low then false else if c ≤ high then true else inRanges c rest

end Intake.Text
