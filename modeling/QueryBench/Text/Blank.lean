import QueryBench.Text.Basic

/-!
# White space

The blank glyphs, cutting them off the ends of a text, and the words between them.

Main definitions: `isBlank`, `trim`, `words`.
-/
set_option autoImplicit false

namespace QueryBench.Text

/-- The code points above the first 128 that separate words. -/
def blankCodes : List Nat :=
  [0x85, 0xA0, 0x1680, 0x2000, 0x2001, 0x2002, 0x2003, 0x2004, 0x2005, 0x2006, 0x2007, 0x2008,
   0x2009, 0x200A, 0x2028, 0x2029, 0x202F, 0x205F, 0x3000]

/-- Tab, line feed, vertical tab, form feed, carriage return, the four information separators, the
space, and the separators of `blankCodes`. -/
def isBlank (g : Glyph) : Bool :=
  let n := g.code
  (0x09 ≤ n && n ≤ 0x0D) || (0x1C ≤ n && n ≤ 0x20) || (0x80 ≤ n && blankCodes.contains n)

/-- The text without the glyphs at its end that satisfy `p`. -/
def dropEndWhile (p : Glyph → Bool) (s : Text) : Text :=
  (s.reverse.dropWhile p).reverse

def trim (s : Text) : Text :=
  dropEndWhile isBlank (s.dropWhile isBlank)

/-- The words of a text; `word` holds the glyphs of the current one, last first. -/
def wordsFrom (word : Text) : Text → List Text
  | [] => if word.isEmpty then [] else [word.reverse]
  | g :: rest =>
    if isBlank g then
      if word.isEmpty then wordsFrom [] rest else word.reverse :: wordsFrom [] rest
    else wordsFrom (g :: word) rest

/-- The maximal runs of glyphs that are not blank, in order. -/
def words (s : Text) : List Text :=
  wordsFrom [] s

def isBlankText (s : Text) : Bool :=
  s.all isBlank

end QueryBench.Text
