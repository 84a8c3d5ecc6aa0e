import QueryBench.Doc.Format
import QueryBench.Page.Element
import QueryBench.Pipeline.Run

/-!
# The page for a question

Main definitions: `Showing`, a computation that shows elements, and `Page.render`.
-/
set_option autoImplicit false

namespace QueryBench

/-- A session and the elements shown so far. -/
structure PageState where
  session : Session
  elements : List Element
  deriving Inhabited

/-- A computation that shows elements and may stop at a fault. -/
abbrev Showing := ExceptT Fault (StateM PageState)

namespace Page

def ofActing {α : Type} (act : Acting α) : Showing α :=
  ExceptT.mk fun p =>
    let (outcome, session) := act.run.run p.session
    (outcome, { p with session })

def put (e : Element) : Showing Unit :=
  modify fun p => { p with elements := p.elements ++ [e] }

def introduction : Text :=
  "\n            I am the **Natural Query to SQL Assistant**. My specialized job is to:\n" ++
  "            1. **Analyze** your natural language questions about the database.\n" ++
  "            2. **Decompose** complex requests into logical execution steps (Tasks).\n" ++
  "            3. **Bridge** the gap between human language and SQL using a Hybrid approach.\n" ++
  "            \n            Please ask me something about the selected database!\n            "

def combination (operation target : Doc) : Text :=
  let indent := Text.replicate 36 ' '
  "\n" ++ indent ++
  "<div style=\"border-left: 5px solid #ff4b4b; padding-left: 20px; margin: 10px 0;\">\n" ++
  indent ++ "    <h3 style=\"color: #ff4b4b;\">⚡ " ++ operation.display ++ "</h3>\n" ++
  indent ++ "    <p style=\"opacity: 0.7;\">Combine results with <b>Task ID: " ++
  target.display ++ "</b></p>\n" ++
  indent ++ "</div>\n" ++ Text.replicate 32 ' '

def isUnachievable (task : Doc) : Except Fault Bool := do
  return (← task.memberD "is_achievable" (.bool true)).isVoid

/-- Is one of the tasks said to be unachievable? The tasks after the first such one are not
looked at. -/
def anyUnachievable : List Doc → Except Fault Bool
  | [] => .ok false
  | task :: rest => do
    if ← isUnachievable task then return true else anyUnachievable rest

def setOperations (task : Doc) : Except Fault (List Doc) := do
  let logic ← (← task.memberD "structural_logic" (.list [])).elements
  logic.filterM fun l => do
    return (← l.member "type").isOneOf ["UNION", "INTERSECT", "EXCEPT"]

def showTask (number : Nat) (task : Doc) : Showing Unit := do
  let id ← task.member "task_id"
  put (.expander ("STEP " ++ toString number ++ " | Task ID: " ++ id.display))
  if ← isUnachievable task then
    let reason ← task.member "error"
    put (.failure ("Logical Error: " ++ reason.display))
  put (.document task)
  (← setOperations task).forM fun operation => do
    let target ← operation.member "target_task_id"
    let kind ← operation.member "type"
    put (.markup (combination kind target))

/-- Shows the tasks of a plan with errors, numbered from `number` on. -/
def showTasks (number : Nat) : List Doc → Showing Unit
  | [] => return ()
  | task :: rest => do
    showTask number task
    showTasks (number + 1) rest

def showStatement (order : SetOrder) (store : Vector.Store) (plan : Plan) : Showing Unit := do
  put (.heading "Final Generated SQL")
  tryCatch
    (do
      let sql ← ofActing (plan.compile order store).act
      put (.code sql "sql"))
    fun fault => put (.failure ("Compilation Error: " ++ fault.message))

def showPlan (order : SetOrder) (store : Vector.Store) (response tasks : Doc) : Showing Unit := do
  let items ← tasks.elements
  let flawed ← anyUnachievable items
  -- The plan is read even if it is not compiled, and a fault in it stops the page.
  let plan ← Plan.ofDoc response
  if flawed then
    put (.heading "Execution Plan (Errors Detected)")
    showTasks 1 items
  else showStatement order store plan

def showAnswer (world : World) (decomposer : Decomposer) (question score : Doc) :
    Showing Unit := do
  put (.spinner "Generating Logical Execution Plan...")
  let (response, tokens) ←
    ofActing (decomposer.decompose world.services (.text "financial") question .null)
  let tasks ← response.memberD "tasks" (.list [])
  put .divider
  put (.columns [3, 1])
  let share ← score.percent
  put (.success ("**Analysis Complete:** SQL Intent Detected (" ++ share ++ "%)"))
  put (.metric "LLM Tokens Used" tokens
    "Total input+output tokens consumed by the Decomposer LLM")
  put .divider
  if tasks.isVoid then put (.warning "Decomposer returned no tasks for this query.")
  else showPlan world.order world.store response tasks

def showChat (score : Doc) : Showing Unit := do
  put (.chat "assistant")
  let share ← score.percent
  put (.words ("**Intent Detected:** General Chat (" ++ share ++ "%)"))
  put (.words introduction)

def render (world : World) (engine : Engine) (entered : Doc) : Showing Unit := do
  put (.config "BirdSQL Execution Plan" "wide")
  let groq ← Decomposer.connect .groq world.environment world.schemas
  let gpt ← Decomposer.connect .gpt world.environment world.schemas
  put (.sidebarTitle "🗄️ Control Panel")
  put (.sidebarChoice "Active Model" ["GROQ", "GPT"])
  put (.title "BirdSQL Pipeline Visualizer")
  put (.input "Enter your query:"
    "e.g., Get loans in Prague UNION get clients with gold cards")
  if !entered.isVoid then
    let (intent, score) ← ofActing (predictIntent world.services entered)
    match intent with
    | .chat => showChat score
    | .query => showAnswer world (if engine = .gpt then gpt else groq) entered score

end Page

end QueryBench
