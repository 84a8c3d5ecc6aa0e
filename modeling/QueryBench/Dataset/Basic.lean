import QueryBench.Dataset.Column
import QueryBench.Doc.Access

/-!
# Datasets

A dataset has labelled columns of one length. It is read from a list of records, whose field names
are the labels, from a list of lists or of single values, whose columns are numbered, or from a
record of columns.

Main definitions: `Label`, `Dataset`, `Dataset.ofDoc`, `Dataset.read`, `Dataset.append`,
`Dataset.rows`.
-/
set_option autoImplicit false

namespace QueryBench

/-- What a column is called by. -/
inductive Label where
  | name (text : Text)
  | number (n : Int)
  deriving DecidableEq, Repr

def Label.display : Label → Text
  | name text => text
  | number n => toString n

/-- Labelled columns of one length. -/
structure Dataset where
  size : Nat
  columns : List (Label × Column)
  deriving Inhabited

abbrev Row := List (Label × Doc)

/-- The cell of a row under a name, if there is one. -/
def Row.cell? (row : Row) (name : Text) : Option Doc :=
  row.lookup (.name name)

namespace Dataset

def empty : Dataset := ⟨0, []⟩

def isEmpty (d : Dataset) : Bool :=
  d.size = 0 || d.columns.isEmpty

def isBlank (d : Dataset) : Bool :=
  d.size = 0 && d.columns.isEmpty

def labels (d : Dataset) : List Label :=
  d.columns.map Prod.fst

def column? (d : Dataset) (name : Text) : Option Column :=
  d.columns.lookup (.name name)

def column (d : Dataset) (name : Text) : Except Fault Column :=
  match d.column? name with
  | some c => .ok c
  | none => .error (.missingKey (.text name))

def union {α : Type} [BEq α] (items more : List α) : List α :=
  more.foldl (fun acc a => if acc.contains a then acc else acc ++ [a]) items

/-! ## From documents -/

/-- The dataset with a row for each list of fields; its columns come in the order of their first
use. -/
def ofFields (rows : List (List (Text × Doc))) : Except Fault Dataset := do
  let names := rows.foldl (fun acc row => union acc (row.map Prod.fst)) []
  let columns ← names.mapM fun n => do
    let column ← Column.settle (rows.map fun row => (Doc.find? row n).getD Column.absent)
    return (Label.name n, column)
  return ⟨rows.length, columns⟩

def ofRecords (items : List Doc) : Except Fault Dataset := do
  ofFields (← items.mapM (Doc.fieldsFor "keys"))

/-- The dataset with a row for each list; its columns are numbered, and a row that is too short has
null in the rest of them. -/
def ofLists (items : List Doc) : Except Fault Dataset := do
  let widths ← items.mapM Doc.size
  let rows ← items.mapM Doc.elements
  let columns ← (List.range (widths.foldl max 0)).mapM fun (i : Nat) => do
    let column ← Column.settle (rows.map fun row => (row[i]?).getD .null)
    return (Label.number i, column)
  return ⟨items.length, columns⟩

def ofValues (items : List Doc) : Except Fault Dataset := do
  let column ← Column.settle items
  return ⟨items.length, [(.number 0, column)]⟩

/-- How many rows the columns of a record have: by the lengths of their lists. -/
def listedRows (columns : List (Text × Doc)) : Except Fault (Option Nat) :=
  match columns.filterMap fun c => match c.2 with
      | .list cells => some cells.length
      | _ => none with
  | [] => .ok none
  | n :: more => if more.all (· = n) then .ok (some n) else .error .unevenColumns

/-- The names of the rows that the columns of a record have, if one has names for them. -/
def namedRows (columns : List (Text × Doc)) : Option (List Text) :=
  match columns.filterMap fun c => match c.2 with
      | .record cells => some (cells.map Prod.fst)
      | _ => none with
  | [] => none
  | names => some (names.foldl union [])

/-- The dataset with the columns of a record. A column is a list, a record of its rows by name, or a
single value that is the same in all rows. -/
def ofColumns (columns : List (Text × Doc)) : Except Fault Dataset := do
  let listed ← listedRows columns
  let named := namedRows columns
  let size ← match listed, named with
    | none, none => throw .rowsUnknown
    | some _, some _ => throw .ambiguousRows
    | some n, none => pure n
    | none, some names => pure names.length
  let columns ← columns.mapM fun (name, content) => do
    let column ← match content with
      | .list cells => Column.ofList cells
      | .record cells => Column.ofList ((named.getD []).map fun row =>
          (Doc.find? cells row).getD Column.absent)
      | d => pure (Column.replicate size d)
    return (Label.name name, column)
  return ⟨size, columns⟩

/-- The dataset a document holds. Of a list, the first item says what it is a list of. -/
def ofDoc : Doc → Except Fault Dataset
  | .list [] | .record [] | .null => .ok empty
  | .list (first :: rest) => match first with
    | .record _ => ofRecords (first :: rest)
    | .list _ => ofLists (first :: rest)
    | _ => ofValues (first :: rest)
  | .record columns => ofColumns columns
  | _ => .error .notDataset

/-! ## From files -/

def numberLabel? : Label → Option Label
  | .name text => do
    let x ← Number.readReal? text
    let n ← Column.whole? x
    return .number n
  | .number _ => none

/-- The labels, as numbers if all of them are numerals. -/
def refineLabels (labels : List Label) : List Label :=
  (labels.mapM numberLabel?).getD labels

def read (doc : Doc) : Except Fault Dataset := do
  let d ← ofDoc doc
  return { d with
    columns := (refineLabels d.labels).zip (d.columns.map fun c => c.2.refine) }

/-! ## Rows and columns -/

def appendColumns (a b : Dataset) (label : Label) : Column :=
  match a.columns.lookup label, b.columns.lookup label with
  | some c, some d => c.append d
  | some c, none => c.extend 0 b.size
  | none, some d => d.extend a.size 0
  | none, none => ⟨.real, List.replicate (a.size + b.size) Column.absent⟩

/-- Two datasets one below the other, with the columns of both; one without rows and columns adds
nothing. -/
def append (a b : Dataset) : Dataset :=
  if a.isBlank then b
  else if b.isBlank then a
  else ⟨a.size + b.size, (union a.labels b.labels).map fun l => (l, appendColumns a b l)⟩

/-- The rows at which `keep` holds of the cell of a column. -/
def filterBy (d : Dataset) (column : Column) (keep : Doc → Bool) : Dataset :=
  let kept (c : Column) : Column :=
    ⟨c.form, ((c.cells.zip column.cells).filter fun p => keep p.2).map Prod.fst⟩
  ⟨(column.cells.filter keep).length, d.columns.map fun c => (c.1, kept c.2)⟩

def setTexts (d : Dataset) (name : Text) (texts : List Text) : Dataset :=
  let column : Column := ⟨.mixed, texts.map Doc.text⟩
  { d with columns :=
      if d.labels.contains (.name name) then
        d.columns.map fun c => if c.1 = .name name then (c.1, column) else c
      else d.columns ++ [(.name name, column)] }

def rows (d : Dataset) : List Row :=
  (List.range d.size).map fun i => d.columns.map fun c => (c.1, (c.2.cells[i]?).getD .null)

end Dataset

end QueryBench
