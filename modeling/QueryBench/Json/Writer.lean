import QueryBench.Fault
import QueryBench.Number.Numeral
import QueryBench.Text.Quoted

/-!
# Writing documents

A whole number of too many digits is not written. A document is written in pieces, so that what
comes before such a number may be written all the same.

Main definitions: `Json.Style`, `Json.write`, `Json.pieces`, `Json.writeChecked`.
-/
set_option autoImplicit false

namespace QueryBench.Json

/-- How documents are laid out: with line breaks and an indentation or on one line, and with or
without the characters above the first 128 codes. -/
structure Style where
  indent : Option Nat
  ascii : Bool
  deriving Repr, DecidableEq

def Style.line : Style := ⟨none, false⟩

def Style.asciiLine : Style := ⟨none, true⟩

def unitEscape (n : Nat) : Text :=
  '\\' :: 'u' :: Text.hexDigits 4 n

def writeGlyph (ascii : Bool) (g : Glyph) : Text :=
  if g = '"' then ['\\', '"']
  else if g = '\\' then ['\\', '\\']
  else if g = '\n' then ['\\', 'n']
  else if g = '\r' then ['\\', 'r']
  else if g = '\t' then ['\\', 't']
  else if g = '\x0c' then ['\\', 'f']
  else if g = '\x08' then ['\\', 'b']
  else if g.code < 0x20 then unitEscape g.code
  else if ascii && 0x7F ≤ g.code then
    if g.code < 0x10000 then unitEscape g.code
    else
      let n := g.code - 0x10000
      unitEscape (0xD800 + n / 0x400) ++ unitEscape (0xDC00 + n % 0x400)
  else [g]

def writeText (ascii : Bool) (s : Text) : Text :=
  .char '"' :: s.flatMap (writeGlyph ascii) ++ [.char '"']

def writeFloat (x : Float) : Text :=
  if x.isNaN then "NaN"
  else if Number.isFinite x then Number.floatText x
  else if x < 0 then "-Infinity" else "Infinity"

/-- The line break before an item at a depth, if lines are broken. -/
def Style.lineBreak (style : Style) (depth : Nat) : Text :=
  match style.indent with
  | none => ""
  | some n => "\n" ++ Text.replicate (n * depth) ' '

def Style.block (style : Style) (depth : Nat) (left right : Text) (parts : List Text) :
    Text :=
  let comma := if style.indent.isSome then "," else ", "
  if parts.isEmpty then left ++ right
  else
    left ++ style.lineBreak (depth + 1) ++
      (comma ++ style.lineBreak (depth + 1)).intercalate parts ++ style.lineBreak depth ++ right

mutual

def writeAt (style : Style) (depth : Nat) : Doc → Text
  | .null => "null"
  | .bool b => if b then "true" else "false"
  | .int n => toString n
  | .real x => writeFloat x
  | .text s => writeText style.ascii s
  | .list items => style.block depth "[" "]" (writeItems style (depth + 1) items)
  | .record fields => style.block depth "\x7b" "\x7d" (writeFields style (depth + 1) fields)

def writeItems (style : Style) (depth : Nat) : List Doc → List Text
  | [] => []
  | d :: rest => writeAt style depth d :: writeItems style depth rest

def writeFields (style : Style) (depth : Nat) : List (Text × Doc) → List Text
  | [] => []
  | (k, v) :: rest =>
    (writeText style.ascii k ++ ": " ++ writeAt style depth v) :: writeFields style depth rest

end

def write (style : Style) (d : Doc) : Text :=
  writeAt style 0 d

/-! ## Piece by piece -/

/-- The text of a whole number, unless it has too many digits. -/
def numberText (n : Int) : Except Fault Text :=
  if Nat.pow 10 Number.numeralLimit ≤ n.natAbs then .error .numberTooLong else .ok (toString n)

def Style.between (style : Style) (depth : Nat) : Text :=
  (if style.indent.isSome then "," else ", ") ++ style.lineBreak depth

mutual

/-- The pieces of a document at a depth of nesting, behind the text `lead`. A number or text is one
piece with what leads to it. -/
def piecesAt (style : Style) (depth : Nat) (lead : Text) : Doc → List (Except Fault Text)
  | .int n => [(lead ++ ·) <$> numberText n]
  | .list (d :: rest) => .ok lead ::
      itemPieces style (depth + 1) ("[" ++ style.lineBreak (depth + 1)) (d :: rest) ++
      [.ok (style.lineBreak depth ++ "]")]
  | .record (f :: rest) => .ok lead ::
      fieldPieces style (depth + 1) ("\x7b" ++ style.lineBreak (depth + 1)) (f :: rest) ++
      [.ok (style.lineBreak depth ++ "\x7d")]
  | d => [.ok (lead ++ writeAt style depth d)]

/-- The pieces of the items of a list, the first of them behind `lead`. -/
def itemPieces (style : Style) (depth : Nat) (lead : Text) :
    List Doc → List (Except Fault Text)
  | [] => []
  | d :: rest => piecesAt style depth lead d ++ itemPieces style depth (style.between depth) rest

/-- The pieces of the fields of a record, the first of them behind `lead`. -/
def fieldPieces (style : Style) (depth : Nat) (lead : Text) :
    List (Text × Doc) → List (Except Fault Text)
  | [] => []
  | (k, v) :: rest =>
    .ok lead :: .ok (writeText style.ascii k) :: .ok ": " :: piecesAt style depth "" v ++
      fieldPieces style depth (style.between depth) rest

end

/-- The pieces in which a document is written; a number that is too long is none. -/
def pieces (style : Style) (d : Doc) : List (Except Fault Text) :=
  piecesAt style 0 "" d

def writeChecked (style : Style) (d : Doc) : Except Fault Text := do
  let texts ← (pieces style d).mapM id
  return texts.flatten

end QueryBench.Json
