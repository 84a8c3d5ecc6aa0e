import QueryBench.Doc.Arithmetic
import QueryBench.Number.Decimal

/-!
# Columns of a dataset

A column has a form. Whole numbers, natural numbers too large to be signed, other numbers and truth
values fill a column of their own form; in a mixed column each cell keeps its value. A number that
is missing is not a number, so a column with a missing number is one of floating point numbers.

Main definitions: `Column.settle`, `Column.refine`, `Column.append`.
-/
set_option autoImplicit false

namespace QueryBench

/-- What the cells of a column have in common. -/
inductive Form where
  | whole
  | natural
  | real
  | truth
  | mixed
  deriving DecidableEq, Inhabited, Repr

/-- The cells of a column and what they have in common. -/
structure Column where
  form : Form
  cells : List Doc
  deriving Inhabited

namespace Column

def absent : Doc :=
  .real (0.0 / 0.0)

def wholeBound : Int := 9223372036854775808

def naturalBound : Int := 18446744073709551616

def isWhole (n : Int) : Bool :=
  -wholeBound ≤ n && n < wholeBound

/-! ## Finding the form -/

/-- What was seen among the first cells of a column. -/
structure Seen where
  null : Bool := false
  missing : Bool := false
  truth : Bool := false
  real : Bool := false
  whole : Bool := false
  negative : Bool := false
  large : Bool := false

def Seen.form (s : Seen) : Form :=
  if s.truth then
    if s.null || s.missing || s.real || s.whole then .mixed else .truth
  else if s.real then .real
  else if s.null || s.missing then
    if s.whole || s.missing then .real else .mixed
  else if s.whole then
    if s.large then .natural else .whole
  else .mixed

/-- What was seen after a whole number, unless it makes the column mixed. Behind a null the size of
a number does not matter. -/
def Seen.number (s : Seen) (n : Int) : Option Seen :=
  let s := { s with whole := true }
  if s.null then some s
  else
    let s := { s with
      negative := s.negative || n < 0
      large := s.large || wholeBound ≤ n }
    if s.large && s.negative || n < -wholeBound || naturalBound ≤ n then none else some s

/-- The form of a column, of which `seen` was seen before. -/
def formFrom (seen : Seen) : List Doc → Except Fault Form
  | [] => .ok seen.form
  | .null :: rest => formFrom { seen with null := true } rest
  | .bool _ :: rest => formFrom { seen with truth := true } rest
  | .real x :: rest =>
    formFrom (if x.isNaN then { seen with missing := true } else { seen with real := true }) rest
  | .int n :: rest => do
    -- A number beyond floating point is a fault, whatever form the column would have.
    let _ ← Doc.floatOfInt n
    match seen.number n with
    | some seen => formFrom seen rest
    | none => return .mixed
  | _ => .ok .mixed

def toReal : Doc → Doc
  | .int n => .real (Number.ofInt n)
  | .null => absent
  | d => d

/-- The column of the given values, which are not none. -/
def settle (values : List Doc) : Except Fault Column := do
  let form ← formFrom {} values
  return ⟨form, if form = .real then values.map toReal else values⟩

/-- The column of values that may be none: without them it is one of numbers. -/
def ofList (values : List Doc) : Except Fault Column :=
  if values.isEmpty then .ok ⟨.real, []⟩ else settle values

def replicate (size : Nat) (value : Doc) : Column :=
  let form := match value with
    | .int n =>
      if isWhole n then .whole else if 0 ≤ n && n < naturalBound then .natural else .mixed
    | .real _ => .real
    | .bool _ => .truth
    | _ => .mixed
  ⟨form, List.replicate size value⟩

/-! ## Numbers written as texts -/

def readReal? : Doc → Option Float
  | .null => some (0.0 / 0.0)
  | .bool b => some (if b then 1.0 else 0.0)
  | .int n => some (Number.ofInt n)
  | .real x => some x
  | .text s => Number.readReal? s
  | _ => none

def whole? (x : Float) : Option Int :=
  match (Doc.real x).toInt with
  | .ok n => if isWhole n && Number.ofInt n == x then some n else none
  | .error _ => none

/-- The column with numbers read from texts, if every cell is a number, and with floating point
numbers that are all whole as whole numbers. -/
def refine (c : Column) : Column :=
  match c.form with
  | .mixed | .real =>
    match c.cells.mapM readReal? with
    | none => c
    | some numbers =>
      let reals : Column := ⟨.real, numbers.map Doc.real⟩
      if c.cells.isEmpty then reals
      else match numbers.mapM whole? with
        | some wholes => ⟨.whole, wholes.map Doc.int⟩
        | none => reals
  | _ => c

/-! ## One column below another -/

/-- A cell as a whole number, where truth values are 0 and 1. -/
def truthToInt : Doc → Doc
  | .bool b => .int (if b then 1 else 0)
  | d => d

def numberToReal (d : Doc) : Doc :=
  toReal (truthToInt d)

def Form.meet : Form → Form → Form
  | .mixed, _ | _, .mixed => .mixed
  | .truth, .real => .mixed
  | .real, _ | _, .real => .real
  | .natural, .whole | .whole, .natural => .real
  | .natural, _ | _, .natural => .natural
  | .whole, _ | _, .whole => .whole
  | .truth, .truth => .truth

/-- Two columns one below the other. Truth values among numbers become numbers, and so do whole
numbers among others. -/
def append (a b : Column) : Column :=
  let cells := a.cells ++ b.cells
  let form := Form.meet a.form b.form
  ⟨form, match form, a.form, b.form with
    -- The truth values become numbers here too, although the column counts as mixed.
    | .mixed, .truth, .real => cells.map numberToReal
    | .mixed, _, _ | .truth, _, _ => cells
    | .real, _, _ => cells.map numberToReal
    | .whole, _, _ | .natural, _, _ => cells.map truthToInt⟩

def extend (c : Column) (before after : Nat) : Column :=
  let form := if c.form = .truth || c.form = .mixed then Form.mixed else .real
  let cells := if form = .real then c.cells.map toReal else c.cells
  ⟨form, List.replicate before absent ++ cells ++ List.replicate after absent⟩

end Column

end QueryBench
