import QueryBench.Database.Basic
import QueryBench.Statistics.Chart
import QueryBench.Statistics.Query

/-!
# The financial database in numbers

Main definitions: `Cardinality`, `FinancialReport`, `analyseFinancial`.
-/
set_option autoImplicit false

namespace QueryBench.Statistics

/-- How many different values a column has. -/
structure Cardinality where
  table : Doc
  column : Text
  distinct : Doc
  rows : Doc
  ratio : Doc

/-- The financial database in numbers. -/
structure FinancialReport where
  columns : Dataset
  joins : List Doc
  selectTypes : List Text
  shares : List (Text × Float)
  cardinalities : Option (List Cardinality)
  annotations : List Annotation

/-- What an analysis works with: the folder its files are below, the database and whether its file
is there, and how the cardinalities are laid out as a table. -/
structure Place where
  folder : Text
  database : Database
  hasDatabase : Bool
  layout : List Cardinality → Text

/-! ## Tables and columns -/

def pairOf (d : Doc) : Except Fault (Doc × Doc) :=
  match d.elements with
  | .error _ => .error (.notUnpackable d.kind)
  | .ok [a, b] => .ok (a, b)
  | .ok items =>
    .error (if items.length < 2 then .tooFewItems 2 items.length else .tooManyItems 2)

abbrev Counts := List (Doc × Nat)

def addCount (counts : Counts) (name : Doc) : Counts :=
  if counts.any (·.1.same name) then
    counts.map fun c => if c.1.same name then (c.1, c.2 + 1) else c
  else counts ++ [(name, 1)]

/-- The number of columns by table; the table number -1 stands for no table. -/
def columnCounts (tables : Doc) (counts : Counts) : List Doc → Except Fault Counts
  | [] => .ok counts
  | entry :: rest => do
    let (number, _) ← pairOf entry
    if number.same (.int (-1)) then columnCounts tables counts rest
    else
      let name ← tables.index number
      name.checkKey
      columnCounts tables (addCount counts name) rest

def countsDataset (counts : Counts) : Except Fault Dataset := do
  let tables ← Column.settle (counts.map Prod.fst)
  return ⟨counts.length, [(.name "Table", tables),
    (.name "Column Count", ⟨.whole, counts.map fun c => .int c.2⟩)]⟩

/-! ## Cardinalities -/

def cellDoc : Cell → Doc
  | .null => .null
  | .int n => .int n
  | .real x => .real x
  | .text s => .text s
  | .blob bytes => .text (Text.quotedBytes bytes)

def cellKind : Cell → Kind
  | .blob _ => .bytes
  | c => (cellDoc c).kind

/-- A number found by counting, and whether the column it comes from holds nothing but numbers. -/
structure Count where
  cell : Cell
  inNumbers : Bool

/-- The first cell of a named column of the answer to a query. -/
def firstCell (db : Database) (query name : Text) : Except Fault Count := do
  let answer ← db.query (.text query)
  match (List.range answer.columns.length).filter (answer.columns[·]? = some name) with
  | [] => throw (.missingKey (.text name))
  | [i] => match answer.settle.columnCells i with
    | c :: _ => return ⟨c, ColumnKind.ofCells (answer.columnCells i) ≠ .mixed⟩
    | [] => throw (.missingKey (.int 0))
  | _ => throw (.missingKey (.int 0))

def columnNames (db : Database) (table : Doc) : Except Fault (List Cell) :=
  match db.reply ("PRAGMA table_info(`" ++ table.display ++ "`)") with
  | .failure message => .error (.refused message)
  | .table answer => answer.rows.mapM fun row => match row[1]? with
    | some c => .ok c
    | none => .error .cellOutOfRange

def nameText : Cell → Except Fault Text
  | .text s => .ok s
  | .blob _ => .error .bytesNeeded
  | c => .error (.noAttribute (cellKind c) "lower")

def isId (name : Text) : Bool :=
  Text.contains "id" (Text.lower name)

/-- A cell as a floating point number, if it is a number. -/
def cellReal? : Cell → Option Float
  | .int n => some (Number.ofInt n)
  | .real x => some x
  | _ => none

def Count.isPositive (c : Count) : Except Fault Bool :=
  match c.cell with
  | .int n => .ok (0 < n)
  | .real x => .ok (0 < x)
  | d => .error (.unordered ">" (cellKind d) .int)

def scaledRatio (distinct rows : Count) : Except Fault Float :=
  match cellReal? distinct.cell, cellReal? rows.cell with
  | some x, some y => .ok (Number.roundPlaces 4 (x / y))
  | _, _ => match distinct.cell with
    | .null => .error (.operands "/" .null (cellKind rows.cell))
    | _ => .error .divisionOperand

/-- The quotient of two counts, exact where both are whole numbers, and its exact value rounded to
four places; the second is positive. -/
def exactRatio (distinct rows : Count) : Except Fault Float :=
  match distinct.cell, rows.cell with
  | .int m, .int n => .ok (Number.roundExact 4 (Number.nearest (m < 0) m.natAbs n.natAbs))
  | a, b => match cellReal? a, cellReal? b with
    | some x, some y => .ok (Number.roundExact 4 (x / y))
    | _, _ => .error (.operands "/" (cellKind a) (cellKind b))

/-- The ratio of different values to rows. A count from a column of numbers is divided like the
other numbers of a column. -/
def ratioOf (distinct rows : Count) : Except Fault Doc := do
  if ← rows.isPositive then
    return .real (← if distinct.inNumbers || rows.inNumbers then scaledRatio distinct rows
      else exactRatio distinct rows)
  else return .int 0

def cardinality (db : Database) (table : Doc) (rows : Count) (column : Text) :
    Except Fault Cardinality := do
  let distinct ← firstCell db ("SELECT COUNT(DISTINCT `" ++ column ++ "`) as u_cnt FROM `" ++
    table.display ++ "`") "u_cnt"
  let ratio ← ratioOf distinct rows
  return ⟨table, column, cellDoc distinct.cell, cellDoc rows.cell, ratio⟩

def cardinalitiesOf (db : Database) (table : Doc) (rows : Count) :
    List Cell → List Cardinality × Option Fault
  | [] => ([], none)
  | name :: rest =>
    match nameText name with
    | .error fault => ([], some fault)
    | .ok column =>
      if isId column then cardinalitiesOf db table rows rest
      else match cardinality db table rows column with
        | .error fault => ([], some fault)
        | .ok c =>
          let (more, fault?) := cardinalitiesOf db table rows rest
          (c :: more, fault?)

def tableShape (db : Database) (table : Doc) : Except Fault (Count × List Cell) := do
  let rows ← firstCell db ("SELECT COUNT(*) as cnt FROM `" ++ table.display ++ "`") "cnt"
  let names ← columnNames db table
  return (rows, names)

/-- The cardinalities of a table; a fault is reported and ends them. -/
def tableCardinalities (db : Database) (table : Doc) : Traced (List Cardinality) := do
  let (found, fault?) := match tableShape db table with
    | .error fault => ([], some fault)
    | .ok (rows, names) => cardinalitiesOf db table rows names
  match fault? with
  | some fault =>
    say ("WARNING: Skipping table " ++ table.display ++ " due to error: " ++ fault.message)
  | none => pure ()
  return found

/-- The cardinalities of all tables, if the database can be read. -/
def allCardinalities (place : Place) (tables : Doc) : Traced (Option (List Cardinality)) := do
  match place.database.connectError with
  | some message =>
    say ("ERROR connecting to SQLite: " ++ message)
    return none
  | none => match tables.elements with
    | .error fault =>
      say ("ERROR connecting to SQLite: " ++ fault.message)
      return some []
    | .ok names =>
      let found ← names.mapM (tableCardinalities place.database)
      let found := found.flatten
      if !found.isEmpty then
        say "\n--- Cardinality Analysis Completed ---"
        say (place.layout found)
      return some found

/-! ## Foreign keys -/

def columnAt (columns number : Doc) (part : Nat) : Except Fault Doc := do
  (← columns.index number).nth part

def sayConnection (tables columns key : Doc) : Traced Unit := do
  let (source, target) ← pairOf key
  let name ← columnAt columns source 1
  let targetName ← columnAt columns target 1
  let table ← columnAt columns source 0
  let targetTable ← columnAt columns target 0
  let tableName ← tables.index table
  let targetTableName ← tables.index targetTable
  say ("Connection: " ++ tableName.display ++ "." ++ name.display ++ " -> " ++
    targetTableName.display ++ "." ++ targetName.display)

/-! ## The report -/

def required (place : Place) (path : Text) (content : Option Doc) : Traced Doc := do
  match content with
  | some d => return d
  | none =>
    say ("CRITICAL ERROR: File not found at " ++ place.folder ++ path)
    say "Please ensure the data directory exists in the parent folder."
    throw (.exit "")

def financialItems (items : List Doc) : Except Fault (List Doc) :=
  items.filterM fun d => do return (← d.field "db_id").isText "financial"

def extended (a b : Doc) : Except Fault (List Doc) := do
  match a with
  | .list items => return items ++ (← b.elements)
  | d => throw (.noAttribute d.kind "extend")

def reportOn (place : Place) (questions : List Doc) (description : Doc) (bars : List Bar) :
    Traced FinancialReport := do
  say "--- Financial Dataset Overview ---"
  say ("Total Questions: " ++ toString questions.length)
  let tables ← description.field "table_names_original"
  say ("Total Tables: " ++ toString (← tables.size))
  let names ← description.field "column_names_original"
  say ("Total Columns: " ++ toString (← names.size))
  let keys ← description.field "foreign_keys"
  say ("Total Foreign Keys: " ++ toString (← keys.size))
  let counts ← countsDataset (← columnCounts tables [] (← names.elements))
  let data ← Dataset.ofDoc (.list questions)
  let queries ← data.column "SQL"
  let joins := occurrences "JOIN" (← upperTexts queries)
  let cardinalities ←
    if place.hasDatabase then allCardinalities place tables
    else do
      say ("ERROR: SQLite database file not found at " ++ place.folder ++
        "/data/dev_20240627/dev_databases/financial/financial.sqlite")
      pure none
  say "\n--- Foreign Key Relationships ---"
  (← keys.elements).forM (sayConnection tables names)
  let shares ← keywordShares data
  let annotations ← annotateShares bars
  say ("Analysis complete. Outputs saved to: " ++ place.folder ++ "/extras/financial_statistics")
  return { columns := counts, joins := countDocs joins,
           selectTypes := queries.cells.map selectType, shares, cardinalities, annotations }

def analyseFinancial (place : Place) (questions descriptions moreDescriptions : Option Doc)
    (bars : List Bar) : Traced FinancialReport := do
  let questions ← required place "/data/dev_20240627/dev.json" questions
  let descriptions ← required place "/data/dev_20240627/dev_tables.json" descriptions
  let more ← required place "/data/dev_20240627/dev_tied_append.json" moreDescriptions
  let all ← extended descriptions more
  let asked ← financialItems (← questions.elements)
  match ← financialItems all with
  | [] =>
    say "ERROR: Database 'financial' not found in tables file."
    throw (.exit "")
  | description :: _ => reportOn place asked description bars

end QueryBench.Statistics
