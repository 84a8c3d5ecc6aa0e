import QueryBench.Decomposer.Basic
import QueryBench.Doc.Arithmetic
import QueryBench.Pipeline.Step
import QueryBench.Plan.Sql
import QueryBench.World

/-!
# Running a question through all steps

A question is routed, put to a model for a plan, compiled to a statement, and checked against the
expected answer. A fault in a step is part of the outcome, so a run always has one.

Main definitions: `Pipeline`, `Pipeline.start`, `Pipeline.process`.
-/
set_option autoImplicit false

namespace QueryBench

/-- The parts of a pipeline; any may be missing. -/
structure Pipeline where
  services : Services
  order : SetOrder
  store : Vector.Store
  router : Bool
  decomposer : Option Decomposer
  evaluator : Option Database

/-- A question with what is known about it. -/
structure Inquiry where
  question : Doc
  database : Doc
  gold : Doc
  hint : Doc

/-- A computation inside a session that always ends with a result. -/
abbrev Stepping := StateM Session

namespace Pipeline

def start (world : World) (model : Text) : Traced Pipeline := do
  say "Initializing BirdSQL Pipeline..."
  say "Router Model Loaded"
  let engine := if model = "gpt" then Engine.gpt else Engine.groq
  if engine = .gpt then say "asking to gpt"
  let decomposer ← Decomposer.connect engine world.environment world.schemas
  say "Decomposer Engine Loaded"
  say "Evaluator Ready"
  return { services := world.services, order := world.order, store := world.store, router := true,
           decomposer := some decomposer, evaluator := some world.database }

def routeStep (p : Pipeline) (q : Inquiry) : Stepping RouterStep := do
  if p.router then
    match ← (predictIntent p.services q.question).run with
    | .ok (intent, score) => return .success intent score
    | .error fault => return .error fault.message
  else return .skipped

/-- Does a plan say how the question is answered? Gives the status and the error it states. -/
def planStatus (plan : Doc) : Except Fault (PlanStatus × Option Doc) := do
  let tasks ← plan.memberD "tasks" (.list [])
  if tasks.isVoid then return (.noTasks, none)
  let first ← tasks.nth 0
  let achievable ← first.memberD "is_achievable" (.bool true)
  if achievable.isVoid then return (.unachievable, some (← first.member "error"))
  return (.success, none)

/-- The step of a plan that was given and the tokens used so far: a count of tokens that cannot be
added is an error, and so is a plan of the wrong shape. -/
def planStepOf (plan tokens : Doc) : PlanStep × Doc :=
  match (Doc.int 0).add tokens with
  | .error fault => (⟨.error, tokens, plan, some (.text fault.message)⟩, .int 0)
  | .ok total => match planStatus plan with
    | .error fault => (⟨.error, tokens, plan, some (.text fault.message)⟩, total)
    | .ok (status, error) => (⟨status, tokens, plan, error⟩, total)

/-- Asks for a plan; gives the step and the tokens used. -/
def planStep (p : Pipeline) (q : Inquiry) : Stepping (PlanStep × Doc) := do
  match p.decomposer with
  | none => return (.pending, .int 0)
  | some d =>
    match ← (d.decompose p.services q.database q.question q.hint).run with
    | .error fault =>
      let step := { PlanStep.pending with status := .error, error := some (.text fault.message) }
      return (step, .int 0)
    | .ok (plan, tokens) => return planStepOf plan tokens

def statement (order : SetOrder) (store : Vector.Store) (plan : Doc) : Traced Text := do
  let plan ← Plan.ofDoc plan
  plan.compile order store

def sqlStep (p : Pipeline) (plan : Doc) : Stepping SqlStep := do
  match ← (statement p.order p.store plan).act.run with
  | .error fault => return .error fault.message
  | .ok sql => return if Text.startsWith "--" sql then .comment sql none else .success sql

/-- Evaluates a statement; the question must be able to be a key. -/
def checked (db : Database) (q : Inquiry) (sql : Text) (tokens : Doc) : Traced Evaluation := do
  q.question.checkKey
  evaluate db
    { id := .null, wording := q.question, gold := q.gold, predicted := .text sql,
      tokens := .record [("total_tokens", tokens)] }

/-- Checks a statement against the expected answer, if there is one. -/
def checkStep (p : Pipeline) (q : Inquiry) (sql : Text) (tokens : Doc) : Stepping CheckStep := do
  if q.gold.isVoid then return .skipped
  else match p.evaluator with
    | none => return .pending
    | some db => match ← (checked db q sql tokens).act.run with
      | .ok e => return .success e
      | .error fault => return .error fault.message

def planned (p : Pipeline) (q : Inquiry) (router : RouterStep) : Stepping (Steps × Doc) := do
  let (plan, tokens) ← p.planStep q
  if plan.status ≠ .success then return (.planless router plan, tokens)
  else match ← p.sqlStep plan.plan with
    | .success sql =>
      let check ← p.checkStep q sql tokens
      return (.completed router plan sql check, tokens)
    | step => return (.sqlless router plan step, tokens)

/-- Takes a question through the steps; gives those taken and the tokens used. -/
def attempt (p : Pipeline) (q : Inquiry) : Stepping (Steps × Doc) := do
  match ← p.routeStep q with
  | .success .chat score => return (.filtered score, .int 0)
  | router => p.planned q router

/-- Processes a question and measures the time this takes. -/
def process (p : Pipeline) (q : Inquiry) : Stepping Outcome := do
  let start ← readClock p.services
  let (steps, tokens) ← p.attempt q
  let stop ← readClock p.services
  return ⟨q.question, q.gold, steps, tokens, stop - start⟩

end Pipeline

end QueryBench
