import QueryBench.Plan.Node

/-!
# Tasks of a plan

A task is one statement: what it selects, where from, and how it is combined with other tasks.
A malformed part carries its fault and shows it only if it is used.

Main definitions: `Task`, `Task.ofFields`, `quoteTable`.
-/
set_option autoImplicit false

namespace QueryBench.Plan

abbrev Part := Except Fault

/-- A column of the result and its name there. -/
structure Output where
  value : Value
  label : Option Text

inductive Target where
  | all
  | outputs (items : Part (List Output))

/-- A value to sort by, and the direction. -/
structure SortKey where
  value : Value
  direction : Text

/-- A table joined to the main one. -/
structure Join where
  kind : Part Doc
  table : Part Doc
  on : Condition

/-- A set operation with the result of another task. -/
structure SetOperation where
  operator : Doc
  task : Part Doc

/-- An entry of the structure of a task. -/
inductive Link where
  | join (j : Join)
  | combine (s : SetOperation)
  /-- An entry of another type, which has no effect. -/
  | ignored

/-- One statement of a plan. -/
structure Task where
  links : Part (List Link)
  distinct : Part Bool
  target : Target
  table : Option (Part Doc)
  filter : Option Condition
  grouping : Option (Part Text)
  having : Option Condition
  order : Option (Part (List SortKey))
  limit : Option Doc

/-- The first word of a table expression between double quotes, unless it starts with one, and the
other words behind it. -/
def quoteWords (s : Text) : Except Fault Text :=
  match Text.words s with
  | [] => .error .outOfRange
  | name :: rest =>
    let quoted := if Text.startsWith "\"" name then name else "\"" ++ name ++ "\""
    .ok (if rest.isEmpty then quoted else quoted ++ " " ++ Text.join " " rest)

/-- A table expression with its name quoted; nothing stays as it is. -/
def quoteTable (d : Doc) : Except Fault Doc :=
  if d.isVoid then .ok d
  else do
    let s ← d.textFor "strip"
    let quoted ← quoteWords s
    return .text quoted

def unlessVoid (d : Doc) : Option Doc :=
  if d.isVoid then none else some d

def fieldOr (fields : List (Text × Doc)) (key : Text) (default : Doc) : Doc :=
  (Doc.find? fields key).getD default

def Output.ofDoc (d : Doc) : Output where
  value := .ofPart (d.field "value")
  label := match d with
    | .record fields => (unlessVoid (fieldOr fields "alias" .null)).map Doc.display
    | _ => none

/-- A list of columns; an empty one selects everything. -/
def Target.ofDoc (d : Doc) : Target :=
  if d.isVoid then .all else .outputs (d.elements.map (·.map Output.ofDoc))

/-- A value to sort by, ascending unless it says otherwise. -/
def SortKey.ofDoc (d : Doc) : SortKey where
  value := .ofPart (d.field "value")
  direction := match d with
    | .record fields => (fieldOr fields "direction" (.text "ASC")).display
    | _ => ""

def orderOf (d : Doc) : Option (Part (List SortKey)) :=
  (unlessVoid d).map fun d => d.elements.map (·.map SortKey.ofDoc)

def Join.ofDoc (d : Doc) : Join where
  kind := d.field "type"
  table := d.field "table" >>= quoteTable
  on := .ofPart (d.field "condition")

def joinsOf (d : Doc) : Part (List Join) :=
  if d.isVoid then .ok [] else d.elements.map (·.map Join.ofDoc)

def setOperators : List Text :=
  ["UNION", "INTERSECT", "EXCEPT"]

def Link.ofDoc (d : Doc) : Part Link := do
  let type ← d.field "type"
  if ← type.has "JOIN" then return .join (.ofDoc d)
  else if type.isOneOf setOperators then return .combine ⟨type, d.field "target_task_id"⟩
  else return .ignored

def groupingOf (d : Doc) : Part Text :=
  match d.elements with
  | .ok items => Doc.joined ", " items
  | .error _ => .error .joinSource

def distinctOf (task : Doc) : Part Bool := do
  let distinct ← task.memberD "is_distinct" (.bool false)
  return !distinct.isVoid

def conditionOf? (d : Doc) : Option Condition :=
  (unlessVoid d).map Condition.ofDoc

def Task.ofFields (fields : List (Text × Doc)) : Task where
  links := do (← (fieldOr fields "structural_logic" (.list [])).elements).mapM Link.ofDoc
  distinct := distinctOf (.record fields)
  target := .ofDoc (fieldOr fields "target" (.list []))
  table := (unlessVoid (fieldOr fields "main_table" .null)).map quoteTable
  filter := conditionOf? (fieldOr fields "where_clause" .null)
  grouping := (unlessVoid (fieldOr fields "group_by" .null)).map groupingOf
  having := conditionOf? (fieldOr fields "having_clause" .null)
  order := orderOf (fieldOr fields "order_by" .null)
  limit := unlessVoid (fieldOr fields "limit_by" .null)

def Link.joins (links : List Link) : List Join :=
  links.filterMap fun
    | .join j => some j
    | _ => none

def Link.setOperations (links : List Link) : List SetOperation :=
  links.filterMap fun
    | .combine s => some s
    | _ => none

end QueryBench.Plan
