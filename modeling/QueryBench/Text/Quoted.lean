import QueryBench.Text.Basic
import QueryBench.Text.Printable

/-!
# Quoted text

A text is shown between single quotes, or between double quotes when it has single quotes and no
double ones. Inside, a backslash, the chosen quote, line feed, carriage return, tab and every
glyph that is not printable is escaped.

Main definitions: `quoted`, `quotedBytes`.
-/
set_option autoImplicit false

namespace QueryBench.Text

/-- The digits of `n` in base 16, at least `width` of them. -/
def hexDigits (width n : Nat) : Text :=
  let ds := Nat.toDigits 16 n
  (List.replicate (width - ds.length) '0' ++ ds).map .char

def quoteFor (s : Text) : Char :=
  if .char '\'' ∈ s ∧ .char '"' ∉ s then '"' else '\''

def quotedGlyph (quote : Char) (g : Glyph) : Text :=
  if g = quote then ['\\', g]
  else if g = '\\' then ['\\', '\\']
  else if g = '\n' then ['\\', 'n']
  else if g = '\r' then ['\\', 'r']
  else if g = '\t' then ['\\', 't']
  else if isPrintable g then [g]
  else if g.code < 0x100 then '\\' :: 'x' :: hexDigits 2 g.code
  else if g.code < 0x10000 then '\\' :: 'u' :: hexDigits 4 g.code
  else '\\' :: 'U' :: hexDigits 8 g.code

def quoted (s : Text) : Text :=
  let quote := quoteFor s
  .char quote :: s.flatMap (quotedGlyph quote) ++ [.char quote]

/-- How one byte is written between quotes: only the first 128 codes are shown as themselves. -/
def quotedByte (quote : Char) (b : UInt8) : Text :=
  if b.toNat < 0x80 then quotedGlyph quote (.ofCode b.toNat)
  else '\\' :: 'x' :: hexDigits 2 b.toNat

/-- A byte string between quotes, marked by a leading `b`. -/
def quotedBytes (bytes : List UInt8) : Text :=
  let quote := quoteFor (bytes.map fun b => .ofCode b.toNat)
  .char 'b' :: .char quote :: bytes.flatMap (quotedByte quote) ++ [.char quote]

end QueryBench.Text
