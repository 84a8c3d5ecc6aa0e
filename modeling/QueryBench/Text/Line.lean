import QueryBench.Text.Basic

/-!
# Lines

Main definitions: `unifyNewlines`, `lines`.
-/
set_option autoImplicit false

namespace QueryBench.Text

def unifyNewlines : Text → Text
  | [] => []
  | .char '\r' :: .char '\n' :: rest => .char '\n' :: unifyNewlines rest
  | .char '\r' :: rest => .char '\n' :: unifyNewlines rest
  | g :: rest => g :: unifyNewlines rest

/-- The lines of a text, each with its line feed; `line` holds the current one, last first. -/
def linesFrom (line : Text) : Text → List Text
  | [] => if line.isEmpty then [] else [line.reverse]
  | g :: rest =>
    if g = '\n' then (g :: line).reverse :: linesFrom [] rest else linesFrom (g :: line) rest

def lines (s : Text) : List Text :=
  linesFrom [] s

end QueryBench.Text
