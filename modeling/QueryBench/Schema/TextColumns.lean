import QueryBench.Console
import QueryBench.Doc.Access

/-!
# The text columns of a database

Main definitions: `Schema.textColumns`, `Schema.reportTextColumns`.
-/
set_option autoImplicit false

namespace QueryBench.Schema

def findDatabase (id : Doc) : List Doc → Except Fault Doc
  | [] => .ok .null
  | d :: rest => do
    if (← d.field "db_id").same id then return d else findDatabase id rest

abbrev Grouped := List (Doc × List Doc)

def groupNames (groups : Grouped) : List Doc → Except Fault Grouped
  | [] => .ok groups
  | name :: rest => do
    name.checkKey
    groupNames (if groups.any (·.1.same name) then groups else groups ++ [(name, [])]) rest

def addColumn (groups : Grouped) (table column : Doc) : Except Fault Grouped :=
  if groups.any (·.1.same table) then
    .ok (groups.map fun g => if g.1.same table then (g.1, g.2 ++ [column]) else g)
  else .error (.missingKey table)

/-- Adds the text columns from number `i` on to their tables. A negative table number stands for no
table. -/
def collectText (tables names : Doc) (groups : Grouped) (i : Nat) :
    List Doc → Except Fault Grouped
  | [] => .ok groups
  | kind :: rest => do
    if kind.isText "text" then
      let entry ← names.nth i
      let table ← entry.nth 0
      let column ← (← names.nth i).nth 1
      if ← Doc.ordered ">=" (· ≠ .lt) table (.int 0) then
        let groups ← addColumn groups (← tables.index table) column
        collectText tables names groups (i + 1) rest
      else collectText tables names groups (i + 1) rest
    else collectText tables names groups (i + 1) rest

def textColumns (database : Doc) : Except Fault Grouped := do
  let tables ← database.field "table_names_original"
  let names ← database.field "column_names_original"
  let kinds ← database.field "column_types"
  let groups ← groupNames [] (← tables.elements)
  collectText tables names groups 0 (← kinds.elements)

/-- Writes the columns of a table, if it has any. -/
def sayGroup (group : Doc × List Doc) : Traced Unit := do
  if !group.2.isEmpty then
    say ("\nTable: " ++ group.1.display)
    group.2.forM fun column => say ("  - " ++ column.display)

def reportTextColumns (path : Text) (content : Option Doc) (id : Doc) : Traced Unit := do
  match content with
  | none => say ("Error: The file '" ++ path ++ "' was not found.")
  | some descriptions =>
    let database ← findDatabase id (← descriptions.elements)
    if database.isVoid then say ("Database '" ++ id.display ++ "' not found in the file.")
    else
      let groups ← textColumns database
      say ("--- Text Columns in '" ++ id.display ++ "' Database ---")
      groups.forM sayGroup

end QueryBench.Schema
