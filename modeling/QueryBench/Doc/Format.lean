import QueryBench.Doc.Arithmetic
import QueryBench.Number.Fixed
import QueryBench.Text.Search

/-!
# Documents in columns and with fixed places

Main definitions: `fixed`, `padded`, `times`, `percent`.
-/
set_option autoImplicit false

namespace QueryBench.Doc

def fixed (places : Nat) (d : Doc) : Except Fault Text :=
  match d.asInt?, d with
  | some n, _ => do
    let x ← floatOfInt n
    return Number.fixedText places x
  | none, real x => .ok (Number.fixedText places x)
  | none, text _ => .error (.numberFormat .text "f")
  | none, d => .error (.noWidth d.kind)

/-- A document as many times as `n` says: a number is multiplied, a text or a list repeated. -/
def times (d : Doc) (n : Nat) : Except Fault Doc :=
  match d.asInt?, d with
  | some m, _ => .ok (int (m * n))
  | none, real x => .ok (real (x * Number.ofInt n))
  | none, text s => .ok (text ((List.replicate n s).flatten))
  | none, list items => .ok (list (List.replicate n items).flatten)
  | none, d => .error (.operands "*" d.kind .int)

def percent (d : Doc) : Except Fault Text := do
  let scaled ← d.times 100
  scaled.fixed 1

end QueryBench.Doc
