import QueryBench.Text.Glyph

/-!
# Texts

A text is a list of glyphs. Strings are texts without halves of surrogate pairs, and stand for them
wherever a text is wanted.

Main definitions: `Text`, `Text.ofString`, `Text.join`, `Text.shown`.
-/
set_option autoImplicit false

namespace QueryBench

abbrev Text := List Glyph

namespace Text

def ofString (s : String) : Text :=
  s.toList.map .char

instance : Coe String Text := ⟨ofString⟩

def ofStrings (strings : List String) : List Text :=
  strings.map ofString

def replicate (n : Nat) (c : Char) : Text :=
  List.replicate n (.char c)

def join (separator : Text) (texts : List Text) : Text :=
  separator.intercalate texts

/-- The characters of a text; a half of a pair is shown as the replacement character. -/
def shown (s : Text) : String :=
  String.ofList (s.map fun
    | .char c => c
    | .half _ => '\ufffd')

end Text

end QueryBench
