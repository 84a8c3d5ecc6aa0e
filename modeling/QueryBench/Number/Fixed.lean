import QueryBench.Number.Binary

/-!
# Text with a fixed number of decimal places

The exact value is rounded to the given number of places, a tie to the even digit.

Main definitions: `fixedText`, `roundExact`, `roundPlaces`.
-/
set_option autoImplicit false

namespace QueryBench.Number

/-- The digits of a whole number with the last `places` behind a point. -/
def withPoint (n places : Nat) : String :=
  let ds := Nat.toDigits 10 n
  let ds := List.replicate (places + 1 - ds.length) '0' ++ ds
  let k := ds.length - places
  String.ofList (ds.take k) ++ (if places = 0 then "" else "." ++ String.ofList (ds.drop k))

def fixedText (places : Nat) (x : Float) : String :=
  match Binary.ofFloat? x with
  | none => if x.isNaN then "nan" else if x < 0 then "-inf" else "inf"
  | some b =>
    let (num, den) := b.ratio
    (if b.negative then "-" else "") ++ withPoint (roundDiv (num * Nat.pow 10 places) den) places

/-- The floating point number nearest to the exact value rounded to the given number of places. -/
def roundExact (places : Nat) (x : Float) : Float :=
  match Binary.ofFloat? x with
  | none => x
  | some b =>
    let (num, den) := b.ratio
    nearest b.negative (roundDiv (num * Nat.pow 10 places) den) (Nat.pow 10 places)

/-- The number scaled by a power of ten, rounded to a whole number with ties to even, and scaled
back, each step in floating point. -/
def roundPlaces (places : Nat) (x : Float) : Float :=
  let power := ofInt (Nat.pow 10 places : Nat)
  roundEven (x * power) / power

end QueryBench.Number
