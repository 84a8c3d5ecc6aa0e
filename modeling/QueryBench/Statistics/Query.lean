import QueryBench.Dataset.Basic
import QueryBench.Number.Fixed
import QueryBench.Text.Case
import QueryBench.Text.Search

/-!
# What queries are made of

Main definitions: `keywords`, `keywordShares`, `occurrences`, `selectType`.
-/
set_option autoImplicit false

namespace QueryBench.Statistics

def keywords : List Text :=
  ["JOIN", "HAVING", "UNION", "GROUP BY", "ORDER BY", "WHERE", "LIMIT", "INTERSECT", "EXCEPT"]

def fillCell : Doc → Doc
  | .null => .text ""
  | .real x => if x.isNaN then .text "" else .real x
  | d => d

/-- The texts of a column in capitals; a cell that is no text has none. A column without any text is
no column of texts, unless it is empty and was made for values of any form. -/
def upperTexts (column : Column) : Except Fault (List (Option Text)) :=
  let texts := (column.cells.map fillCell).map fun
    | .text s => some (Text.upper s)
    | _ => none
  let isOpen := column.cells.isEmpty && column.form matches .mixed
  if isOpen || texts.any Option.isSome then .ok texts else .error .notTextColumn

/-- The share of texts that contain a keyword, in percent with two places. If a cell is no text the
exact value is rounded, and else the scaled one. -/
def shareOf (texts : List (Option Text)) (keyword : Text) : Float :=
  let count := texts.countP fun t => (t.map (Text.contains keyword)).getD false
  let share := Float.ofNat count / Float.ofNat texts.length * 100.0
  if texts.all Option.isSome then Number.roundPlaces 2 share else Number.roundExact 2 share

def keywordShares (d : Dataset) : Except Fault (List (Text × Float)) := do
  let cells ← d.column "SQL"
  let texts ← upperTexts cells
  return keywords.map fun k => (k, shareOf texts k)

def occurrences (keyword : Text) (texts : List (Option Text)) : List (Option Nat) :=
  texts.map (·.map (Text.countOf keyword))

/-- Counts as documents: when one is missing they are floating point numbers. -/
def countDocs (counts : List (Option Nat)) : List Doc :=
  if counts.all Option.isSome then counts.map fun c => .int (c.getD 0)
  else counts.map fun
    | some n => .real (Float.ofNat n)
    | none => Column.absent

def selectType : Doc → Text
  | .text s =>
    let sql := Text.upper s
    if Text.contains "SELECT COUNT" sql then "COUNT"
    else if Text.contains "SELECT SUM" sql then "SUM"
    else if Text.contains "SELECT AVG" sql then "AVG"
    else if Text.contains "SELECT MIN" sql || Text.contains "SELECT MAX" sql then "MIN/MAX"
    else "COLUMN/VALUE"
  | _ => "UNKNOWN"

end QueryBench.Statistics
