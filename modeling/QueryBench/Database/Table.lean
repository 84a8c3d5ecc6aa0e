import QueryBench.Fault
import QueryBench.Text.Blank
import QueryBench.Text.Case

/-!
# Answers of a database

The cells of an answer are settled column by column: a column of numbers in which a fraction or a
null occurs holds floating point numbers, with a null standing for a number that is missing. A
column with a text or a byte string, or with nulls alone, keeps its cells as they are.

Main definitions: `Cell`, `Table`, `Table.aligned`, `Table.settle`, `Table.values`,
`Table.normalized`.
-/
set_option autoImplicit false

namespace QueryBench

/-- A cell of an answer. -/
inductive Cell where
  | null
  | int (value : Int)
  | real (value : Float)
  | text (value : Text)
  | blob (bytes : List UInt8)
  deriving Inhabited, Repr

def missingNumber : Float :=
  0.0 / 0.0

namespace Cell

def isNull : Cell → Bool
  | null => true
  | _ => false

def isInt : Cell → Bool
  | int _ => true
  | _ => false

def isNumber : Cell → Bool
  | int _ | real _ => true
  | _ => false

def toReal : Cell → Cell
  | null => real missingNumber
  | int n => real (Number.ofInt n)
  | c => c

def display : Cell → Text
  | null => "None"
  | int n => toString n
  | real x => Number.floatText x
  | text s => s
  | blob bytes => Text.quotedBytes bytes

/-- The text of a cell in lower case and without blanks at its ends. -/
def normalized : Cell → Text
  | null => "none"
  | c => Text.lower (Text.trim c.display)

end Cell

/-- What the cells of a column have in common. -/
inductive ColumnKind where
  | whole
  | fraction
  | mixed
  deriving DecidableEq, Repr

def ColumnKind.ofCells (cells : List Cell) : ColumnKind :=
  if cells.isEmpty then .mixed
  else if cells.all Cell.isInt then .whole
  else if cells.all (fun c => c.isNull || c.isNumber) && cells.any Cell.isNumber then .fraction
  else .mixed

def ColumnKind.settle : ColumnKind → Cell → Cell
  | .fraction, c => c.toReal
  | _, c => c

/-- An answer: the names of its columns and its rows. -/
structure Table where
  columns : List Text
  rows : List (List Cell)
  deriving Inhabited

namespace Table

def width (t : Table) : Nat :=
  t.rows.foldl (fun widest row => max widest row.length) 0

/-- The answer with one cell for every column in every row. A shorter row goes on with nulls and a
longer one is cut, but some row must reach the last column; rows without any cell are none. -/
def aligned (t : Table) : Except Fault Table :=
  if t.width = 0 then .ok { t with rows := [] }
  else if t.width < t.columns.length then .error (.missingCells t.width t.columns.length)
  else .ok { t with
    rows := t.rows.map fun row => (List.range t.columns.length).map (row.getD · .null) }

def columnCells (t : Table) (i : Nat) : List Cell :=
  t.rows.map fun row => row.getD i .null

def kinds (t : Table) : List ColumnKind :=
  (List.range t.columns.length).map fun i => .ofCells (t.columnCells i)

/-- The answer with every cell as its column holds it; without columns there are no rows. -/
def settle (t : Table) : Table :=
  let kinds := t.kinds
  { t with
    rows := if t.columns.isEmpty then [] else t.rows.map (kinds.zipWith ColumnKind.settle ·) }

/-- The rows taken together: when all columns are numbers and one has fractions, all cells become
floating point numbers. -/
def values (t : Table) : List (List Cell) :=
  let kinds := t.kinds
  let rows := t.settle.rows
  if kinds.all (· ≠ .mixed) && kinds.any (· = .fraction) then rows.map (·.map Cell.toReal) else rows

def normalized (t : Table) : List (List Text) :=
  t.values.map (·.map Cell.normalized)

def columnNames (t : Table) : List Text :=
  t.columns.map fun name => Text.lower (Text.trim name)

end Table

end QueryBench
