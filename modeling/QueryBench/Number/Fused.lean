import QueryBench.Number.Binary

/-!
# A product added to a number in one rounding

Main definition: `fusedAdd`.
-/
set_option autoImplicit false

namespace QueryBench.Number

def Binary.signed (b : Binary) : Int :=
  if b.negative then -(b.significand : Int) else b.significand

/-- The floating point number nearest to `n * 2 ^ e`; zero is positive. -/
def ofScaled (n e : Int) : Float :=
  if 0 ≤ e then nearest (n < 0) (n.natAbs * Nat.pow 2 e.toNat) 1
  else nearest (n < 0) n.natAbs (Nat.pow 2 (-e).toNat)

/-- The product of two numbers added to a third, where only the sum is rounded. -/
def fusedAdd (x y z : Float) : Float :=
  match Binary.ofFloat? x, Binary.ofFloat? y, Binary.ofFloat? z with
  | some x, some y, some z =>
    let place := x.exponent + y.exponent
    let low := min place z.exponent
    ofScaled (x.signed * y.signed * Nat.pow 2 (place - low).toNat +
      z.signed * Nat.pow 2 (z.exponent - low).toNat) low
  | _, _, _ => x * y + z

end QueryBench.Number
