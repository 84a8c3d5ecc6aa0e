import QueryBench.Number.Ratio

/-!
# Floating point numbers as exact binary fractions

Main definitions: `Binary.ofFloat?`, the sign, significand and exponent of a finite number, and
`nearest`, the floating point number closest to a quotient.
-/
set_option autoImplicit false

namespace QueryBench.Number

/-- The number `significand * 2 ^ exponent`, or its opposite. -/
structure Binary where
  negative : Bool
  significand : Nat
  exponent : Int
  deriving Repr, DecidableEq

namespace Binary

/-- The exact value of a floating point number, unless it is infinite or not a number. -/
def ofFloat? (x : Float) : Option Binary :=
  let bits : Nat := x.toBits.toNat
  let negative := bits / Nat.pow 2 63 = 1
  let field : Nat := bits / Nat.pow 2 52 % Nat.pow 2 11
  let fraction : Nat := bits % Nat.pow 2 52
  if field = 2047 then none
  else if field = 0 then some ⟨negative, fraction, -1074⟩
  else some ⟨negative, Nat.pow 2 52 + fraction, (field : Int) - 1075⟩

def ratio (b : Binary) : Nat × Nat :=
  if 0 ≤ b.exponent then (b.significand * Nat.pow 2 b.exponent.toNat, 1)
  else (b.significand, Nat.pow 2 (-b.exponent).toNat)

def truncate (b : Binary) : Int :=
  let (n, d) := b.ratio
  if b.negative then -((n / d : Nat) : Int) else ((n / d : Nat) : Int)

def compareInt (n : Int) (b : Binary) : Ordering :=
  let (num, den) := b.ratio
  compare (n * den) (if b.negative then -(num : Int) else (num : Int))

end Binary

def isFinite (x : Float) : Bool :=
  (Binary.ofFloat? x).isSome

/-- The floating point number nearest to `num / den`, where a tie goes to the even significand and
what exceeds every finite number is infinite. -/
def nearest (negative : Bool) (num den : Nat) : Float :=
  let sign : Nat := if negative then Nat.pow 2 63 else 0
  if num = 0 then Float.ofBits sign.toUInt64
  else
    let guess : Int := (num.log2 : Int) - (den.log2 : Int) - 52
    let low : Int :=
      if 0 ≤ guess then (if num < den * Nat.pow 2 (guess.toNat + 52) then guess - 1 else guess)
      else (if num * Nat.pow 2 (-guess).toNat < den * Nat.pow 2 52 then guess - 1 else guess)
    let e : Int := max low (-1074)
    let q :=
      if 0 ≤ e then roundDiv num (den * Nat.pow 2 e.toNat)
      else roundDiv (num * Nat.pow 2 (-e).toNat) den
    -- The leading bit of the significand adds one to the exponent field, and so does a carry.
    let bits := (e + 1074).toNat * Nat.pow 2 52 + q
    if 2047 * Nat.pow 2 52 ≤ bits then Float.ofBits (sign + 2047 * Nat.pow 2 52).toUInt64
    else Float.ofBits (sign + bits).toUInt64

def ofInt (n : Int) : Float :=
  nearest (n < 0) n.natAbs 1

/-- The floating point number nearest to `digits * 10 ^ exponent`. -/
def ofDecimal (negative : Bool) (digits : Nat) (exponent : Int) : Float :=
  let magnitude : Int := digitCount digits + exponent
  -- Far out of range there is no need for the power of ten.
  if digits = 0 ∨ magnitude < -400 then nearest negative 0 1
  else if 400 < magnitude then nearest negative (Nat.pow 2 1024) 1
  else
    let (num, den) := scale digits 1 exponent
    nearest negative num den

/-- The whole number nearest to a finite number, with ties to even, as a floating point number of
the same sign; other numbers are kept. -/
def roundEven (x : Float) : Float :=
  match Binary.ofFloat? x with
  | none => x
  | some b =>
    let (num, den) := b.ratio
    nearest b.negative (roundDiv num den) 1

end QueryBench.Number
