/-! # Character classes given by ranges

A class of code points is a list of closed ranges in ascending order. -/

namespace ChangeLint.Text

/-- Closed ranges of code points. -/
abbrev Ranges : Type := List (Nat × Nat)

/-- Does one of the ranges hold the code point? -/
def Ranges.holds (ranges : Ranges) (n : Nat) : Bool :=
  ranges.any fun r => r.1 ≤ n && n ≤ r.2

/-- A class grows with its ranges. -/
@[simp] theorem Ranges.holds_append (a b : Ranges) (n : Nat) :
    Ranges.holds (a ++ b) n = (a.holds n || b.holds n) := by
  simp [Ranges.holds]

end ChangeLint.Text
