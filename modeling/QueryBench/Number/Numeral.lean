import QueryBench.Text.Blank
import QueryBench.Text.Digit

/-!
# Whole numbers written in decimal digits

A numeral may be surrounded by blanks, carry a sign, use the decimal digits of any script and have
single underscores between its digits. It is refused if it is too long to be converted.

Main definition: `readInt`.
-/
set_option autoImplicit false

namespace QueryBench.Number

/-- Why a text is not read as a whole number. -/
inductive NumeralError where
  | malformed
  | tooLong (digits : Nat)
  deriving Repr, DecidableEq

def numeralLimit : Nat := 4300

/-- Can a glyph stand around a numeral? The blanks can, without the information separators. -/
def isMargin (g : Glyph) : Bool :=
  Text.isBlank g && !(0x1C ≤ g.code && g.code ≤ 0x1F)

def trimMargins (s : Text) : Text :=
  Text.dropEndWhile isMargin (s.dropWhile isMargin)

/-- The values of the digits at the head of a text and what follows them; `start` says that a digit
must come next. -/
def digitsAt (start : Bool) : Text → Option (List Nat × Text)
  | [] => if start then none else some ([], [])
  | c :: rest =>
    if c = '_' then if start then none else digitsAt true rest
    else match Text.digitValue? c with
      | some d => (digitsAt false rest).map fun r => (d :: r.1, r.2)
      | none => if start then none else some ([], c :: rest)

/-- The digit values of a text that holds nothing else; `start` says that a digit must come
first. -/
def digitValues (start : Bool) (s : Text) : Option (List Nat) :=
  match digitsAt start s with
  | some (ds, []) => some ds
  | _ => none

def ofDigits (ds : List Nat) : Nat :=
  ds.foldl (fun acc d => 10 * acc + d) 0

def splitSign : Text → Bool × Text
  | .char '-' :: rest => (true, rest)
  | .char '+' :: rest => (false, rest)
  | rest => (false, rest)

/-- The whole number a text denotes. The digits are counted before what follows them is looked
at. -/
def readInt (s : Text) : Except NumeralError Int :=
  let (negative, body) := splitSign (trimMargins s)
  match digitsAt true body with
  | none => .error .malformed
  | some (ds, rest) =>
    if numeralLimit < ds.length then .error (.tooLong ds.length)
    else if rest.isEmpty then
      let n : Int := ofDigits ds
      .ok (if negative then -n else n)
    else .error .malformed

end QueryBench.Number
