import QueryBench.Doc.Access

/-!
# Adding documents

Main definition: `Doc.add`.
-/
set_option autoImplicit false

namespace QueryBench.Doc

/-- A whole number as a floating point number, which must be large enough for it. -/
def floatOfInt (n : Int) : Except Fault Float :=
  let x := Number.ofInt n
  if Number.isFinite x then .ok x else .error .tooLarge

/-- The sum of two numbers: one floating point number makes it floating point. -/
def addNumbers? : Doc → Doc → Option (Except Fault Doc)
  | a, b =>
    match a.asInt?, b.asInt?, a, b with
    | some m, some n, _, _ => some (.ok (int (m + n)))
    | some m, none, _, real y => some ((floatOfInt m).map fun x => real (x + y))
    | none, some n, real x, _ => some ((floatOfInt n).map fun y => real (x + y))
    | none, none, real x, real y => some (.ok (real (x + y)))
    | _, _, _, _ => none

/-- A document with another one added to it: numbers are summed, texts and lists grow. -/
def add (a b : Doc) : Except Fault Doc :=
  match addNumbers? a b with
  | some sum => sum
  | none => match a, b with
    | text s, text t => .ok (text (s ++ t))
    | text _, _ => .error (.appendText b.kind)
    | list xs, _ => b.elements.map fun ys => list (xs ++ ys)
    | _, _ => .error (.operands "+=" a.kind b.kind)

end QueryBench.Doc
