/-!
# Sets of code points as intervals
-/
set_option autoImplicit false

namespace QueryBench.Text

def within (intervals : List (Nat × Nat)) (n : Nat) : Bool :=
  intervals.any fun i => i.1 ≤ n && n ≤ i.2

end QueryBench.Text
