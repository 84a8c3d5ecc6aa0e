import QueryBench.Fault

/-!
# What can be wrong with a written document

Main definitions: `Json.Problem` with its wording, and `Json.describe`, which adds the line,
the column and the character position.
-/
set_option autoImplicit false

namespace QueryBench.Json

/-- What is wrong at a position of the text. -/
inductive Problem where
  | value
  | extra
  | name
  | colon
  | comma
  | unterminated
  | control
  | escape
  | unicodeEscape
  | byteOrderMark
  deriving Repr, DecidableEq

def Problem.message : Problem → Text
  | value => "Expecting value"
  | extra => "Extra data"
  | name => "Expecting property name enclosed in double quotes"
  | colon => "Expecting ':' delimiter"
  | comma => "Expecting ',' delimiter"
  | unterminated => "Unterminated string starting at"
  | control => "Invalid control character at"
  | escape => "Invalid \\escape"
  | unicodeEscape => "Invalid \\uXXXX escape"
  | byteOrderMark => "Unexpected UTF-8 BOM (decode using utf-8-sig)"

/-- Why a text is not a document. -/
inductive Error where
  | syntactic (problem : Problem) (position : Nat)
  | refused (fault : Fault)
  deriving Repr

/-- The line of a position, counted from one, and its column. -/
def lineColumn (position : Nat) (s : Text) : Nat × Nat :=
  let before := s.take position
  let line := before.count (.char '\n')
  let column := (before.reverse.takeWhile (· ≠ .char '\n')).length
  (line + 1, column + 1)

def describe (s : Text) (problem : Problem) (position : Nat) : Text :=
  let (line, column) := lineColumn position s
  problem.message ++ ": line " ++ toString line ++ " column " ++ toString column ++
    " (char " ++ toString position ++ ")"

def Error.fault (s : Text) : Error → Fault
  | syntactic problem position => .malformed (describe s problem position)
  | refused fault => fault

end QueryBench.Json
