import QueryBench.Decomposer.Instructions
import QueryBench.Session
import QueryBench.Doc.Access
import QueryBench.Json.Reader
import QueryBench.Json.Writer
import QueryBench.Text.Blank

/-!
# Asking a model for a plan

Main definitions: `Engine`, `Decomposer`, `Decomposer.connect`, `Decomposer.decompose`.
-/
set_option autoImplicit false

namespace QueryBench

inductive Engine where
  | gpt
  | groq
  deriving DecidableEq, Repr

namespace Engine

def model : Engine → Text
  | gpt => "gpt-4o"
  | groq => "openai/gpt-oss-120b"

def keyName : Engine → Text
  | gpt => "OPENAI_API_KEY"
  | groq => "GROQ_API_KEY"

def exceptDates : Engine → Bool
  | gpt => false
  | groq => true

end Engine

def schemaPath : Text :=
  "info/database_info.json"

/-- A model with the schemas it is told about. -/
structure Decomposer where
  engine : Engine
  schemas : Doc

namespace Decomposer

/-- A decomposer; it needs the key to the service, in a variable of the environment, and the file with
the schemas. -/
def connect (engine : Engine) (environment : Text → Option Text) (schemas : Option Doc) :
    Except Fault Decomposer :=
  if ((environment engine.keyName).getD "").isEmpty then .error (.noApiKey engine.keyName)
  else match schemas with
    | none => .error (.noFile schemaPath)
    | some schemas => .ok ⟨engine, schemas⟩

/-- The schema of a database, null if it is not known. -/
def schemaOf (d : Decomposer) (database : Doc) : Except Fault Doc := do
  let known ← d.schemas.fieldsFor "get"
  database.checkKey
  match database with
  | .text name => return (Doc.find? known name).getD .null
  | _ => return .null

/-- The hint to give: none if it is void or blank. -/
def hintOf (hint : Doc) : Except Fault (Option Text) :=
  if hint.isVoid then .ok none
  else do
    let s ← hint.textFor "strip"
    return if Text.isBlankText s then none else some s

def request (d : Decomposer) (schema : Doc) (hint : Option Text) (question : Doc) : Request where
  model := d.engine.model
  messages := [
    ⟨"system", .text (instructions d.engine.exceptDates (Json.write ⟨some 2, true⟩ schema) hint)⟩,
    ⟨"user", question⟩]
  jsonReply := true

def refusal (reason : Text) : Doc :=
  .record [("tasks", .list [
    .record [("is_achievable", .bool false), ("error", .text reason)]])]

def ask (services : Services) (request : Request) : Acting (Doc × Doc) := do
  let (content, tokens) ← askModel services request
  let text ← content.textFor "strip"
  let plan ← Json.read (Text.trim text)
  return (plan, tokens)

/-- The plan for a question on a database, and the number of tokens used. A failure of the model
is reported and gives a plan that cannot be achieved. -/
def decompose (d : Decomposer) (services : Services) (database question hint : Doc) :
    Acting (Doc × Doc) := do
  let schema ← d.schemaOf database
  if schema.isVoid then return (refusal ("DB " ++ database.display ++ " not found"), .int 0)
  let hint ← hintOf hint
  tryCatch (ask services (d.request schema hint question)) fun fault => do
    (say fault.message).act
    return (refusal fault.message, .int 0)

end Decomposer

end QueryBench
