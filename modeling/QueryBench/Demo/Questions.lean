import QueryBench.Pipeline.Run

/-!
# Sample questions for the models

Main definitions: `Demo.greet`, `Demo.compileSamples`.
-/
set_option autoImplicit false

namespace QueryBench.Demo

def greet (services : Services) : Acting Unit := do
  let (content, tokens) ← askModel services {
    model := "llama-3.3-70b-versatile"
    messages := [⟨"user", .text ("Hello! We are working on a BirdSQL project with a financial " ++
      "database. Are you ready to help us with query decomposition?")⟩]
    jsonReply := false }
  (say tokens.display).act
  (say content.display).act

def sampleQuestions : List Text :=
  ["Show me the average balance of female clients from Prague who have gold cards.",
    "List all loans in Prague and find the youngest client in Brno.",
    "Who are the clients with a balance higher than the average balance?",
    "Order pizza for me.",
    "List the IDs of clients who live in Prague and union them with the IDs of clients who have " ++
      "a gold card.",
    "Name the account numbers of female clients who are oldest and have lowest average salary?",
    "List out the accounts who have the earliest trading date in 1995 ?",
    "For the branch which located in the south Bohemia with biggest number of inhabitants, what " ++
      "is the percentage of the male clients?Name the account numbers of female clients who are " ++
      "oldest and have lowest average salary?"]

def sayStatement (order : SetOrder) (store : Vector.Store) (response : Doc) : Traced Unit := do
  let sql ← Pipeline.statement order store response
  say "GENERATED SQL:"
  say sql
  say (Text.replicate 50 '-')

def compileSample (world : World) (decomposer : Decomposer) (number : Nat) (question : Text) :
    Acting Unit := do
  (say ("QUERY " ++ toString number ++ ": " ++ question)).act
  let (response, _) ←
    decomposer.decompose world.services (.text "financial") (.text question) .null
  let tasks ← response.memberD "tasks" (.list [])
  if tasks.isVoid then (say "[INFO] No tasks returned.").act
  else
    let first ← tasks.nth 0
    if (← first.memberD "is_achievable" (.bool true)).isVoid then
      let reason ← (← tasks.nth 0).member "error"
      (say ("[INFO] Query unachievable: " ++ reason.display)).act
    else (sayStatement world.order world.store response).act

/-- Puts the questions to the model, numbered from `number` on. -/
def compileAll (world : World) (decomposer : Decomposer) (number : Nat) :
    List Text → Acting Unit
  | [] => return ()
  | question :: rest => do
    compileSample world decomposer number question
    compileAll world decomposer (number + 1) rest

def compileSamples (world : World) : Acting Unit := do
  if world.schemas.isNone then
    (say "[ERROR] database_info.json not found.").act
    throw (.exit "None")
  match Decomposer.connect .gpt world.environment world.schemas with
  | .error fault =>
    (say ("[ERROR] Initialization failed: " ++ fault.message)).act
    throw (.exit "None")
  | .ok decomposer => compileAll world decomposer 1 sampleQuestions

end QueryBench.Demo
