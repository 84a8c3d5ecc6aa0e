import QueryBench.Number.Binary

/-!
# Shortest decimal text

A floating point number is written with the fewest digits that read back as the same number and,
among those, with the nearest ones. Numbers from `10 ^ -4` up to `10 ^ 16` are written
positionally, all others with an exponent.

Main definitions: `shortestDigits`, `floatText`.
-/
set_option autoImplicit false

namespace QueryBench.Number

/-- The quotients that round to a binary fraction, in units of `2 ^ unit`: those between `low` and
`high`, the ends included when `closed`. -/
structure RoundingRange where
  low : Nat
  value : Nat
  high : Nat
  unit : Int
  closed : Bool

def Binary.range (b : Binary) : RoundingRange :=
  -- Below a power of two the numbers are twice as close together.
  let below := if b.significand = Nat.pow 2 52 ∧ -1074 < b.exponent then 1 else 2
  { low := 4 * b.significand - below
    value := 4 * b.significand
    high := 4 * b.significand + 2
    unit := b.exponent - 2
    closed := b.significand % 2 = 0 }

/-- Does `digits * 10 ^ e` round to the value? Both sides are multiplied out. -/
def RoundingRange.holds (r : RoundingRange) (digits : Nat) (e : Int) : Bool :=
  let (n, d) := scale digits 1 e
  let (n, d) :=
    if 0 ≤ r.unit then (n, d * Nat.pow 2 r.unit.toNat) else (n * Nat.pow 2 (-r.unit).toNat, d)
  if r.closed then r.low * d ≤ n && n ≤ r.high * d else r.low * d < n && n < r.high * d

/-- The digits and exponent of the shortest decimal with `count` or more digits, tried for at most
`fuel` counts; `p` is the order of magnitude of the quotient `num / den`. -/
def searchDigits (r : RoundingRange) (num den : Nat) (p : Int) (count : Nat) :
    Nat → Nat × Int
  | 0 => (num / den, 0)
  | fuel + 1 =>
    let e : Int := p - count + 1
    let (n, d) := scale num den (-e)
    let q := n / d
    let nearer := if 2 * (n % d) < d then q else if d < 2 * (n % d) then q + 1
      else if q % 2 = 0 then q else q + 1
    let other := if nearer = q then q + 1 else q
    if r.holds nearer e then (nearer, e)
    else if r.holds other e then (other, e)
    else searchDigits r num den p (count + 1) fuel

/-- The digits and the power of ten of the shortest decimal that reads back as the fraction. -/
def shortestDigits (b : Binary) : Nat × Int :=
  let (num, den) := b.ratio
  searchDigits b.range num den (tenPower num den) 1 17

def zeros (n : Nat) : List Char :=
  List.replicate n '0'

/-- The digits of a number without the zeros at the end, and how many were cut off. -/
def significantDigits (n : Nat) : List Char × Nat :=
  let ds := Nat.toDigits 10 n
  let kept := (ds.reverse.dropWhile (· = '0')).reverse
  (kept, ds.length - kept.length)

/-- The text of an exponent: a sign and at least two digits. -/
def exponentText (e : Int) : String :=
  let ds := Nat.toDigits 10 e.natAbs
  (if e < 0 then "-" else "+") ++ String.ofList (zeros (2 - ds.length) ++ ds)

/-- The text of the positive number `digits * 10 ^ e`. -/
def decimalText (digits : Nat) (e : Int) : String :=
  let (ds, cut) := significantDigits digits
  let point : Int := ds.length + (e + cut)
  if -4 < point ∧ point ≤ 16 then
    if point ≤ 0 then "0." ++ String.ofList (zeros (-point).toNat ++ ds)
    else
      let k := point.toNat
      if ds.length ≤ k then String.ofList (ds ++ zeros (k - ds.length)) ++ ".0"
      else String.ofList (ds.take k) ++ "." ++ String.ofList (ds.drop k)
  else
    let head := String.ofList (ds.take 1)
    let tail := ds.drop 1
    head ++ (if tail.isEmpty then "" else "." ++ String.ofList tail) ++ "e" ++
      exponentText (point - 1)

/-- The shortest text that reads back as the number. -/
def floatText (x : Float) : String :=
  match Binary.ofFloat? x with
  | none => if x.isNaN then "nan" else if x < 0 then "-inf" else "inf"
  | some b =>
    let sign := if b.negative then "-" else ""
    if b.significand = 0 then sign ++ "0.0"
    else
      let (digits, e) := shortestDigits b
      sign ++ decimalText digits e

end QueryBench.Number
