import QueryBench.Text.Basic
import QueryBench.Text.Case.Upper
import QueryBench.Text.Case.Lower
import QueryBench.Text.Case.Sigma

/-!
# Upper and lower case of a text

Full case mappings: a letter may become several, and a capital sigma at the end of a word becomes
the final small sigma.

Main definitions: `upper`, `lower`.
-/
set_option autoImplicit false

namespace QueryBench.Text

namespace Case

def upperGlyph : Glyph → Text
  | .half n => [.half n]
  | .char c =>
    if c.toNat < 0x80 then [.char c.toUpper]
    else match upperExpansions.lookup c.toNat with
      | some codes => codes.map .ofCode
      | none => [((shiftIn upperRuns c.toNat).map .ofCode).getD (.char c)]

/-- The lower case of one glyph, whatever stands beside it. -/
def lowerGlyph : Glyph → Text
  | .half n => [.half n]
  | .char c =>
    if c.toNat < 0x80 then [.char c.toLower]
    else match lowerExpansions.lookup c.toNat with
      | some codes => codes.map .ofCode
      | none => [((shiftIn lowerRuns c.toNat).map .ofCode).getD (.char c)]

/-- Is the first glyph that is not passed over a cased letter? -/
def meetsCased (s : Text) : Bool :=
  match s.dropWhile fun g => within ignorable g.code with
  | [] => false
  | g :: _ => within cased g.code

/-- The lower case of a text; `before` holds the glyphs already read, last first. -/
def lowerFrom (before : Text) : Text → Text
  | [] => []
  | g :: rest =>
    (if g = 'Σ' then [.char (if meetsCased before && !meetsCased rest then 'ς' else 'σ')]
      else lowerGlyph g) ++ lowerFrom (g :: before) rest

end Case

def upper (s : Text) : Text :=
  s.flatMap Case.upperGlyph

def lower (s : Text) : Text :=
  Case.lowerFrom [] s

end QueryBench.Text
