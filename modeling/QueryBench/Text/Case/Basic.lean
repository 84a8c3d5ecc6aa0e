/-!
# Runs of letters with a common distance to their other case

Main definition: `Run.shift?`, the other case of a code point inside a run.
-/
set_option autoImplicit false

namespace QueryBench.Text.Case

/-- The code points `first`, `first + step`, … up to `last`, each of which changes case by adding
`offset`. -/
structure Run where
  first : Nat
  last : Nat
  step : Nat
  offset : Int
  deriving Repr, DecidableEq

def Run.shift? (r : Run) (n : Nat) : Option Nat :=
  if r.first ≤ n ∧ n ≤ r.last ∧ (n - r.first) % r.step = 0 then some (Int.toNat (n + r.offset))
  else none

/-- The other case of a code point in the first run that holds it. -/
def shiftIn (runs : List Run) (n : Nat) : Option Nat :=
  runs.findSome? (·.shift? n)

end QueryBench.Text.Case
