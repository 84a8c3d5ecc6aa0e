import QueryBench.Number.Binary
import QueryBench.Number.Numeral

/-!
# Decimal fractions

A decimal may be surrounded by blanks and carry a sign. It has digits before or after a point, with
single underscores between digits, and may have an exponent. Infinity and what is not a number are
written in words.

Main definition: `readReal?`.
-/
set_option autoImplicit false

namespace QueryBench.Number

/-- The digit values of a part of a decimal, which may be empty. -/
def partDigits? (part : Text) : Option (List Nat) :=
  if part.isEmpty then some [] else digitValues true part

def isDigitPart (c : Glyph) : Bool :=
  c = '_' || (Text.digitValue? c).isSome

def exponent? : Text → Option Int
  | [] => some 0
  | c :: rest =>
    if c = 'e' || c = 'E' then
      let (negative, body) := splitSign rest
      (digitValues true body).map fun ds => if negative then -(ofDigits ds : Int) else ofDigits ds
    else none

/-- The number with the given whole and fractional digits and exponent, unless it has no digits. -/
def assemble? (negative : Bool) (whole fraction : List Nat) (exponent : Int) : Option Float :=
  if whole.isEmpty && fraction.isEmpty then none
  else some (ofDecimal negative (ofDigits (whole ++ fraction)) (exponent - fraction.length))

def unsigned? (negative : Bool) (body : Text) : Option Float := do
  let whole ← partDigits? (body.takeWhile isDigitPart)
  match body.dropWhile isDigitPart with
  | .char '.' :: rest =>
    let fraction ← partDigits? (rest.takeWhile isDigitPart)
    assemble? negative whole fraction (← exponent? (rest.dropWhile isDigitPart))
  | rest => assemble? negative whole [] (← exponent? rest)

def readReal? (s : Text) : Option Float :=
  let (negative, body) := splitSign (trimMargins s)
  let word : Text := body.map fun
    | .char c => .char c.toLower
    | g => g
  if word = "inf" || word = "infinity" then some (if negative then -1.0 / 0.0 else 1.0 / 0.0)
  else if word = "nan" then some (0.0 / 0.0)
  else unsigned? negative body

end QueryBench.Number
