import QueryBench.Json.Reader

/-!
# The dialect of dataset files

The numbers of a dataset file are read in machine arithmetic. The digits before the point are added
up in 64 bits, of those behind it the first fifteen count, and the exponent is a power of ten in
floating point. In a text the first half of a surrogate pair waits for the second.

Main definitions: `Dataset.machineValue`, `Dataset.joinHalves`, `Dataset.dialect`.
-/
set_option autoImplicit false

namespace QueryBench.Dataset

def wordCount : Nat := 18446744073709551616

/-- The value of digits behind digits of value `value`, in 64 bits. That it became too large is seen
from a positive number growing smaller or from a negative one exceeding half of the words. -/
def wordFrom (negative : Bool) (value : Nat) : Text → Except Fault Nat
  | [] => .ok value
  | d :: rest =>
    let next := (10 * value + (d.code - '0'.toNat)) % wordCount
    if !negative && next < value then .error .cellTooBig
    else if negative && wordCount / 2 < next then .error .cellTooSmall
    else wordFrom negative next rest

def fractionLimit : Nat := 15

def fractionValue (digits : Text) : Float :=
  let used := digits.take fractionLimit
  Number.ofInt (Json.digitsValue used) * Number.ofDecimal false 1 (-(used.length : Int))

def machineValue (n : Json.Numeral) : Except Json.Error Doc := do
  let word ← (wordFrom n.negative 0 n.whole).mapError Json.Error.refused
  match n.fraction, n.exponent with
  | none, none => return .int (if n.negative then -(word : Int) else word)
  | fraction, exponent =>
    let value := Number.ofInt word + fractionValue (fraction.getD [])
    let value := value * (if n.negative then -1.0 else 1.0)
    return .real (match exponent with
      | some e => value * Float.pow 10.0 (Number.ofInt e)
      | none => value)

/-- The text of pieces, behind the first half of a pair if there is one. The next unit must be
the second half, wherever it stands; if there is none the first half is dropped. -/
def joinHalves (high : Option Nat) : List Json.Piece → Except Fault Text
  | [] => .ok []
  | .plain g :: rest => (g :: ·) <$> joinHalves high rest
  | .unit n :: rest =>
    match high with
    | some h =>
      if Glyph.isLow n then (Glyph.pair h n :: ·) <$> joinHalves none rest
      else .error .unpairedHalf
    | none =>
      if Glyph.isHigh n then joinHalves (some n) rest
      else (Glyph.ofCode n :: ·) <$> joinHalves none rest

def dialect : Json.Dialect where
  number := machineValue
  text pieces := (joinHalves none pieces).mapError Json.Error.refused

end QueryBench.Dataset
