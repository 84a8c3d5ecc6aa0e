/-!
# Quotients of natural numbers

Rounding a quotient to a whole number and finding its order of magnitude, in exact arithmetic.

Main definitions: `roundDiv`, `tenPower`.
-/
set_option autoImplicit false

namespace QueryBench.Number

/-- The whole number nearest to `num / den`; a quotient halfway between two goes to the even one. -/
def roundDiv (num den : Nat) : Nat :=
  let q := num / den
  let r := num % den
  if 2 * r < den then q
  else if den < 2 * r then q + 1
  else if q % 2 = 0 then q else q + 1

def digitCount (n : Nat) : Nat :=
  (Nat.toDigits 10 n).length

/-- `num / den` times ten to the power `e`, as a quotient. -/
def scale (num den : Nat) (e : Int) : Nat × Nat :=
  if 0 ≤ e then (num * Nat.pow 10 e.toNat, den) else (num, den * Nat.pow 10 (-e).toNat)

/-- The exponent `p` with `10 ^ p ≤ num / den < 10 ^ (p + 1)`, for a positive quotient. -/
def tenPower (num den : Nat) : Int :=
  let guess : Int := (digitCount num : Int) - (digitCount den : Int)
  let (n, d) := scale num den (-guess)
  if d ≤ n then guess else guess - 1

end QueryBench.Number
