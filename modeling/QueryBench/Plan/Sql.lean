import QueryBench.Plan.Basic
import QueryBench.Vector.Search

/-!
# The SQL text of a plan

Main definitions: `Plan.renderValue`, `Plan.renderCondition`, `Plan.renderTask`,
`Plan.compileTask`, `Plan.compile`. A task is entered at most as deep as the plan has tasks: a
plan that goes deeper refers to itself in a circle.
-/
set_option autoImplicit false

namespace QueryBench.Plan

/-- What the text of a node depends on: the vector store, and the text of other tasks. -/
structure Context where
  store : Vector.Store
  subquery : Doc → Traced Text

/-! ## Values and conditions -/

def constantText : Doc → Text
  | .null => "NULL"
  | .text s => "'" ++ s ++ "'"
  | d => d.display

/-- A constant: a list goes between parentheses, and a text that starts with one stays as it is. -/
def literalText : Doc → Text
  | .list items => "(" ++ Text.join ", " (items.map constantText) ++ ")"
  | .text s => if Text.startsWith "(" (Text.trim s) then s else "'" ++ s ++ "'"
  | d => constantText d

def callText (name : Text) (arguments : List Doc) : Except Fault Text :=
  match arguments with
  | [expression, type] => if name = "CAST" then castText expression type else plainCall
  | [] => if name = "COUNT" then .ok "COUNT(*)" else plainCall
  | _ => plainCall
where
  castText (expression type : Doc) : Except Fault Text := do
    let type ← type.textFor "replace"
    let type := Text.replaceChar '"' [] (Text.replaceChar '\'' [] type)
    return "CAST(" ++ expression.display ++ " AS " ++ type ++ ")"
  plainCall : Except Fault Text := do
    let list ← Doc.joined ", " arguments
    return name ++ "(" ++ list ++ ")"

/-- Is the text a list of values that is also a query? -/
def isListQuery (right : Text) : Bool :=
  let start := Text.upper (Text.trim right)
  Text.contains "," right && Text.startsWith "(" (Text.trim right) &&
    -- The second alternative never holds behind a parenthesis.
    (Text.startsWith "(SELECT" start || Text.startsWith "SELECT" start)

/-- The operator to write before a right side: before a list, equality becomes membership. -/
def operatorText (operator : Doc) (right : Text) : Text :=
  if isListQuery right then
    if operator.isText "=" then "IN"
    else if operator.isOneOf ["!=", "<>"] then "NOT IN"
    else operator.display
  else operator.display

def compareText (operator left right : Doc) : Text :=
  "(" ++ left.display ++ " " ++ operatorText operator right.display ++ " " ++ right.display ++ ")"

mutual

/-- The text of a value under an operator; a column is given back as it stands in the plan. -/
def renderValue (ctx : Context) (operator : Doc) : Value → Traced Doc
  | .null => return .text "NULL"
  | .literal content => return .text (literalText content)
  | .column name => return name
  | .call name arguments => do
    let texts ← renderValues ctx arguments
    let call ← callText name texts
    return .text call
  | .choice arms otherwise => do
    let cases ← renderArms ctx arms
    let last ← renderOtherwise ctx otherwise
    return .text ("CASE " ++ Text.join " " cases ++ last ++ " END")
  | .condition c => do
    let text ← renderCondition ctx c
    return .text text
  | .semantic table column term => do
    let (found, _) ← Vector.search ctx.store table column term operator (.int 1)
    return .text (found.getD ("'" ++ term.display ++ "'"))
  | .subquery task => do
    let text ← ctx.subquery task
    return .text ("(" ++ text ++ ")")
  | .faulty fault => throw fault

def renderValues (ctx : Context) : List Value → Traced (List Doc)
  | [] => return []
  | v :: rest => do
    let text ← renderValue ctx (.text "") v
    let texts ← renderValues ctx rest
    return text :: texts

def renderArms (ctx : Context) : List Arm → Traced (List Text)
  | [] => return []
  | .mk test result :: rest => do
    let test ← renderValue ctx (.text "") test
    let result ← renderValue ctx (.text "") result
    let texts ← renderArms ctx rest
    return ("WHEN " ++ test.display ++ " THEN " ++ result.display) :: texts

def renderOtherwise (ctx : Context) : Option Value → Traced Text
  | none => return ""
  | some v => do
    let text ← renderValue ctx (.text "") v
    return " ELSE " ++ text.display

def renderCondition (ctx : Context) : Condition → Traced Text
  | .group connective parts => do
    let texts ← renderConditions ctx parts
    return "(" ++ Text.join (" " ++ connective.display ++ " ") texts ++ ")"
  | .compare operator left right => do
    let left ← renderValue ctx operator left
    let right ← renderValue ctx operator right
    return compareText operator left right
  | .faulty fault => throw fault

def renderConditions (ctx : Context) : List Condition → Traced (List Text)
  | [] => return []
  | c :: rest => do
    let text ← renderCondition ctx c
    let texts ← renderConditions ctx rest
    return text :: texts

end

/-! ## Clauses -/

/-- A selected column: its name in the result makes it a text. -/
def renderOutput (ctx : Context) (item : Output) : Traced Doc := do
  let value ← renderValue ctx (.text "") item.value
  return match item.label with
    | some name => .text (value.display ++ " AS " ++ name)
    | none => value

def renderTarget (ctx : Context) (distinct : Part Bool) (target : Target) : Traced Text := do
  let distinct ← distinct
  match target with
  -- Without columns the rows are not made distinct, even if that is asked for.
  | .all => return "SELECT *"
  | .outputs items => do
    let columns ← (← items).mapM (renderOutput ctx)
    let list ← Doc.joined ", " columns
    return (if distinct then "SELECT DISTINCT " else "SELECT ") ++ list

def renderJoin (ctx : Context) (j : Join) : Traced Text := do
  let table ← j.table
  let condition ← renderCondition ctx j.on
  let kind ← j.kind
  return kind.display ++ " " ++ table.display ++ " ON " ++ condition

def renderJoins (ctx : Context) (joins : List Join) : Traced Text := do
  let texts ← joins.mapM (renderJoin ctx)
  return Text.join "\n" texts

def renderFilter (ctx : Context) (keyword : Text) : Option Condition → Traced Text
  | none => return ""
  | some c => do
    let text ← renderCondition ctx c
    return keyword ++ " " ++ text

def renderSortKey (ctx : Context) (key : SortKey) : Traced Text := do
  let value ← renderValue ctx (.text "") key.value
  return value.display ++ " " ++ key.direction

def renderOrder (ctx : Context) : Option (Part (List SortKey)) → Traced Text
  | none => return ""
  | some keys => do
    let texts ← (← keys).mapM (renderSortKey ctx)
    return "ORDER BY " ++ Text.join ", " texts

def renderFrom : Option (Part Doc) → Traced Text
  -- A blank is not left out among the clauses, so an empty line stays in the statement.
  | none => return " "
  | some table => do
    let table ← table
    return "FROM " ++ table.display

def renderGrouping : Option (Part Text) → Traced Text
  | none => return ""
  | some columns => do
    let columns ← columns
    return "GROUP BY " ++ columns

def renderSetOperations (ctx : Context) (sql : Text) : List SetOperation → Traced Text
  | [] => return sql
  | s :: rest => do
    let task ← s.task
    let other ← ctx.subquery task
    renderSetOperations ctx
      ("(" ++ sql ++ ") \n" ++ s.operator.display ++ " \n(" ++ other ++ ")") rest

def renderTask (ctx : Context) (task : Task) : Traced Text := do
  let links ← task.links
  let select ← renderTarget ctx task.distinct task.target
  let source ← renderFrom task.table
  let joins ← renderJoins ctx (Link.joins links)
  let filter ← renderFilter ctx "WHERE" task.filter
  let grouping ← renderGrouping task.grouping
  let having ← renderFilter ctx "HAVING" task.having
  let order ← renderOrder ctx task.order
  let limit := match task.limit with
    | none => ""
    | some n => "LIMIT " ++ n.display
  let clauses := [select, source, joins, filter, grouping, having, order, limit]
  let base := Text.join "\n" (clauses.filter fun c => !c.isEmpty)
  renderSetOperations ctx base (Link.setOperations links)

/-! ## Tasks by id -/

/-- What stands in for a task that is not there. -/
def missingTask (id : Doc) : Text :=
  "-- Error: Task " ++ id.display ++ " not found"

/-- The text of the task with an id, where tasks are entered at most `depth` deep. -/
def compileTask (plan : Plan) (store : Vector.Store) : Nat → Doc → Traced Text
  | 0, id => do
    let number ← id.toInt
    match plan.find? number with
    | none => return missingTask id
    -- As many tasks are open as the plan has, so with this one some task is open twice.
    | some _ => throw .circular
  | depth + 1, id => do
    let number ← id.toInt
    match plan.find? number with
    | none => return missingTask id
    | some task => renderTask ⟨store, compileTask plan store depth⟩ task

def context (plan : Plan) (store : Vector.Store) : Context :=
  ⟨store, compileTask plan store plan.tasks.length⟩

def compile (plan : Plan) (order : SetOrder) (store : Vector.Store) : Traced Text :=
  if plan.tasks.isEmpty then return "-- No tasks found"
  else do
    let root ← plan.root order
    compileTask plan store plan.tasks.length root

end QueryBench.Plan
