import QueryBench.Proofs.Doc.Shape
import QueryBench.Proofs.Evaluation
import QueryBench.Proofs.Plan.Settled

/-!
# Pipelines with steady services

Where the replies of the router and the model do not depend on the number of the call, a question
always has the same outcome, whatever was asked and written before. Only the time that it took may
differ, unless the clock stands still.

Main definitions: `Services.Steady`, `Services.Still`, and `Pipeline.processed`, the outcome of a
question. Main statements: `Pipeline.always_repeats` and `Pipeline.Repeats.eq_of_still`.
-/
set_option autoImplicit false

namespace QueryBench

/-! ## Services -/

/-- Do the replies not depend on the number of the call? -/
structure Services.Steady (services : Services) : Prop where
  router : ∀ n text, services.router n text = services.router 0 text
  model : ∀ n request, services.model n request = services.model 0 request

/-- The session after the clock was read. -/
def Session.timed (s : Session) : Session :=
  { s with clockReadings := s.clockReadings + 1 }

/-- What the router's reply gives: the label number and the score, or its failure. -/
def RouterReply.outcome : RouterReply → Except Fault (Doc × Doc)
  | answer id score => .ok (id, score)
  | failure message => .error (.service message)

/-- The intent that the reply of the router gives, and the score. -/
def RouterReply.intent (reply : RouterReply) : Except Fault (Intent × Doc) := do
  let (id, score) ← reply.outcome
  let intent ← Intent.ofId id
  return (intent, score)

/-- What the model's reply gives: the text and the tokens used, or its failure. -/
def ModelReply.outcome : ModelReply → Except Fault (Doc × Doc)
  | answer content tokens => .ok (content, tokens)
  | failure message => .error (.service message)

theorem run_askRouter (services : Services) (text : Doc) (s : Session) :
    runIn (askRouter services text) s =
      ((services.router s.routerCalls text).outcome, { s with routerCalls := s.routerCalls + 1 }) := by
  show runIn (match services.router s.routerCalls text with
    | .answer id score => pure (id, score)
    | .failure message => throw (.service message) : Acting (Doc × Doc)) _ = _
  cases services.router s.routerCalls text <;> rfl

theorem run_askModel (services : Services) (request : Request) (s : Session) :
    runIn (askModel services request) s =
      ((services.model s.modelCalls request).outcome,
        { s with modelCalls := s.modelCalls + 1, requests := s.requests ++ [request] }) := by
  show runIn (match services.model s.modelCalls request with
    | .answer content tokens => pure (content, tokens)
    | .failure message => throw (.service message) : Acting (Doc × Doc)) _ = _
  cases services.model s.modelCalls request <;> rfl

section
variable {services : Services} (hsteady : services.Steady)
include hsteady

theorem yields_askRouter (text : Doc) :
    Yields (askRouter services text) (services.router 0 text).outcome := by
  intro s
  rw [run_askRouter, hsteady.router]

theorem yields_predictIntent (text : Doc) :
    Yields (predictIntent services text) (services.router 0 text).intent :=
  (yields_askRouter hsteady text).bind fun r _ =>
    (Yields.lift (Intent.ofId r.1)).bind fun intent _ => .pure (intent, r.2)

theorem yields_askModel (request : Request) :
    Yields (askModel services request) (services.model 0 request).outcome := by
  intro s
  rw [run_askModel, hsteady.model]

end

theorem Yields.act {α : Type} {act : Traced α} {r : Except Fault α} (h : Yields act r) :
    Yields act.act r :=
  fun s => h s.console

/-- The plan that the reply of the model gives, and the number of tokens used. -/
def ModelReply.plan (reply : ModelReply) : Except Fault (Doc × Doc) := do
  let (content, tokens) ← reply.outcome
  let text ← content.textFor "strip"
  let plan ← Json.read (Text.trim text)
  return (plan, tokens)

/-- The plan for a question where the model's replies depend on the request alone. -/
def Decomposer.decomposed (d : Decomposer) (services : Services) (database question hint : Doc) :
    Except Fault (Doc × Doc) := do
  let schema ← d.schemaOf database
  if schema.isVoid then return (refusal ("DB " ++ database.display ++ " not found"), .int 0)
  let hint ← hintOf hint
  match (services.model 0 (d.request schema hint question)).plan with
  | .ok r => return r
  | .error fault => return (refusal fault.message, .int 0)

namespace Decomposer

theorem yields_ask {services : Services} (hsteady : services.Steady) (request : Request) :
    Yields (ask services request) (services.model 0 request).plan :=
  (yields_askModel hsteady request).bind fun r _ =>
    (Yields.lift (r.1.textFor "strip")).bind fun text _ =>
      (Yields.lift (Json.read (Text.trim text))).bind fun plan _ => .pure (plan, r.2)

theorem yields_decompose {services : Services} (hsteady : services.Steady) (d : Decomposer)
    (database question hint : Doc) :
    Yields (d.decompose services database question hint)
      (d.decomposed services database question hint) := by
  refine (Yields.lift (d.schemaOf database)).bind fun schema _ => ?_
  cases schema.isVoid with
  | true => exact .pure _
  | false =>
    refine (Yields.lift (hintOf hint)).bind fun hint _ => ?_
    have hask := yields_ask hsteady (d.request schema hint question)
    cases hplan : (services.model 0 (d.request schema hint question)).plan with
    | ok r =>
      rw [hplan] at hask
      exact Yields.tryCatch_ok hask
    | error fault =>
      rw [hplan] at hask
      exact Yields.tryCatch_error hask ((Yields.say _).act.bind_ok (.pure _))

end Decomposer

namespace Pipeline

/-- The statement of a plan, or why there is none. -/
def compiled (order : SetOrder) (store : Vector.Store) (plan : Doc) : Except Fault Text :=
  (statement order store plan).outcome.1

theorem yields_statement (order : SetOrder) (store : Vector.Store) (plan : Doc) :
    Yields (statement order store plan) (compiled order store plan) :=
  (settled_statement order store plan).yields ""

/-- The pipeline of a world with a decomposer; no part is missing. -/
def ofWorld (world : World) (decomposer : Decomposer) : Pipeline where
  services := world.services
  order := world.order
  store := world.store
  router := true
  decomposer := some decomposer
  evaluator := some world.database

/-- The pipeline of a world with a model, or why there is none. -/
def started (world : World) (model : Text) : Except Fault Pipeline := do
  let decomposer ←
    Decomposer.connect (if model = "gpt" then .gpt else .groq) world.environment world.schemas
  return ofWorld world decomposer

theorem yields_start (world : World) (model : Text) :
    Yields (start world model) (started world model) := by
  have hparts (d : Decomposer) : Yields (do
      say "Decomposer Engine Loaded"
      say "Evaluator Ready"
      return ofWorld world d) (.ok (ofWorld world d)) :=
    (Yields.say _).bind_ok ((Yields.say _).bind_ok (.pure _))
  refine (Yields.say _).bind_ok ((Yields.say _).bind_ok ?_)
  unfold started
  by_cases hmodel : model = "gpt"
  · simp only [if_pos hmodel]
    exact (Yields.say _).bind_ok ((Yields.lift _).bind fun d _ => hparts d)
  · simp only [if_neg hmodel]
    exact (Yields.lift _).bind fun d _ => hparts d

/-! ## Steps -/

/-- How a question is routed. -/
def routed (p : Pipeline) (q : Inquiry) : RouterStep :=
  if p.router then
    match (p.services.router 0 q.question).intent with
    | .ok (intent, score) => .success intent score
    | .error fault => .error fault.message
  else .skipped

/-- The step that asks for a plan, and the tokens used. -/
def planFor (p : Pipeline) (q : Inquiry) : PlanStep × Doc :=
  match p.decomposer with
  | none => (.pending, .int 0)
  | some d =>
    match d.decomposed p.services q.database q.question q.hint with
    | .error fault =>
      ({ PlanStep.pending with status := .error, error := some (.text fault.message) }, .int 0)
    | .ok (plan, tokens) => planStepOf plan tokens

/-- The step that compiles a plan. -/
def sqlFor (order : SetOrder) (store : Vector.Store) (plan : Doc) : SqlStep :=
  match compiled order store plan with
  | .error fault => .error fault.message
  | .ok sql => if Text.startsWith "--" sql then .comment sql none else .success sql

/-- The step that checks a statement against the expected answer. -/
def checkFor (p : Pipeline) (q : Inquiry) (sql : Text) (tokens : Doc) : CheckStep :=
  if q.gold.isVoid then .skipped
  else match p.evaluator with
    | none => .pending
    | some db =>
      match q.question.checkKey >>= fun _ => evaluated db
        { id := .null, wording := q.question, gold := q.gold, predicted := .text sql,
          tokens := .record [("total_tokens", tokens)] } with
      | .ok e => .success e
      | .error fault => .error fault.message

/-- The steps of a question from its plan on. -/
def stepsAfter (p : Pipeline) (q : Inquiry) (router : RouterStep) : PlanStep × Doc → Steps
  | (plan, tokens) =>
    if plan.status ≠ .success then .planless router plan
    else match sqlFor p.order p.store plan.plan with
      | .success sql => .completed router plan sql (p.checkFor q sql tokens)
      | step => .sqlless router plan step

/-- The steps of a question and the tokens used. -/
def attempted (p : Pipeline) (q : Inquiry) : Steps × Doc :=
  match p.routed q with
  | .success .chat score => (.filtered score, .int 0)
  | router => (p.stepsAfter q router (p.planFor q), (p.planFor q).2)

/-- The outcome of a question that took so long. -/
def processed (p : Pipeline) (q : Inquiry) (time : Float) : Outcome :=
  ⟨q.question, q.gold, (p.attempted q).1, (p.attempted q).2, time⟩

theorem merged_add {n : Int} {a total : Doc} (h : (Doc.int n).add a = .ok total) :
    total.merged = total := by
  cases a with
  | real x =>
    obtain ⟨y, -, rfl⟩ := ok_of_map h
    rfl
  | bool b =>
    cases h
    rfl
  | int m =>
    cases h
    rfl
  | null | text s | list items | record fields => cases h

theorem merged_planFor (p : Pipeline) (q : Inquiry) : (p.planFor q).2.merged = (p.planFor q).2 := by
  unfold planFor
  cases p.decomposer with
  | none => rfl
  | some d =>
    dsimp only
    cases d.decomposed p.services q.database q.question q.hint with
    | error fault => rfl
    | ok r =>
      show (planStepOf r.1 r.2).2.merged = (planStepOf r.1 r.2).2
      unfold planStepOf
      cases hadd : (Doc.int 0).add r.2 with
      | error fault => rfl
      | ok total =>
        have htotal := merged_add hadd
        dsimp only
        cases planStatus r.1 <;> exact htotal

/-- The number of tokens used is the same when it was written and read again. -/
theorem merged_tokens (p : Pipeline) (q : Inquiry) (time : Float) :
    (p.processed q time).tokens.merged = (p.processed q time).tokens := by
  unfold processed attempted
  split
  · rfl
  · exact merged_planFor p q

theorem gives_routeStep {p : Pipeline} (hsteady : p.services.Steady) (q : Inquiry) :
    Gives (p.routeStep q) (p.routed q) := by
  unfold routeStep routed
  cases p.router with
  | false => exact .pure _
  | true =>
    refine (yields_predictIntent hsteady q.question).gives.bind ?_
    cases (p.services.router 0 q.question).intent with
    | error fault => exact .pure _
    | ok r => exact .pure _

theorem gives_planStep {p : Pipeline} (hsteady : p.services.Steady) (q : Inquiry) :
    Gives (p.planStep q) (p.planFor q) := by
  unfold planStep planFor
  cases p.decomposer with
  | none => exact .pure _
  | some d =>
    refine (d.yields_decompose hsteady q.database q.question q.hint).gives.bind ?_
    dsimp only
    cases d.decomposed p.services q.database q.question q.hint with
    | error fault => exact .pure _
    | ok r => exact .pure _

theorem gives_sqlStep (p : Pipeline) (plan : Doc) : 
    Gives (p.sqlStep plan) (sqlFor p.order p.store plan) := by
  refine (yields_statement p.order p.store plan).act.gives.bind ?_
  unfold sqlFor
  cases compiled p.order p.store plan with
  | error fault => exact .pure _
  | ok sql => exact .pure _

theorem gives_checkStep (p : Pipeline) (q : Inquiry) (sql : Text) (tokens : Doc) :
    Gives (p.checkStep q sql tokens) (p.checkFor q sql tokens) := by
  unfold checkStep checkFor
  cases q.gold.isVoid with
  | true => exact .pure _
  | false =>
    cases p.evaluator with
    | none => exact .pure _
    | some db =>
      have hchecked := (Yields.lift q.question.checkKey).bind fun _ _ => yields_evaluate db
        { id := .null, wording := q.question, gold := q.gold, predicted := .text sql,
          tokens := .record [("total_tokens", tokens)] }
      refine hchecked.act.gives.bind ?_
      dsimp only
      cases q.question.checkKey >>= fun _ => evaluated db
        { id := .null, wording := q.question, gold := q.gold, predicted := .text sql,
          tokens := .record [("total_tokens", tokens)] } with
      | error fault => exact .pure _
      | ok e => exact .pure _

/-- From its plan on, the outcome of a question depends on the plan alone. -/
theorem run_planned (p : Pipeline) (q : Inquiry) (router : RouterStep) (session : Session) :
    ((p.planned q router).run session).1 =
      (p.stepsAfter q router ((p.planStep q).run session).1, ((p.planStep q).run session).1.2) := by
  refine Gives.after session ?_
  rcases ((p.planStep q).run session).1 with ⟨plan, tokens⟩
  unfold stepsAfter
  dsimp only
  by_cases hstatus : plan.status = .success
  · rw [if_neg (not_not.2 hstatus), if_neg (not_not.2 hstatus)]
    refine (gives_sqlStep p plan.plan).bind ?_
    cases sqlFor p.order p.store plan.plan with
    | success sql => exact (gives_checkStep p q sql tokens).bind (.pure _)
    | comment sql reason => exact .pure _
    | error message => exact .pure _
  · rw [if_pos hstatus, if_pos hstatus]
    exact .pure _

theorem gives_planned {p : Pipeline} (hsteady : p.services.Steady) (q : Inquiry)
    (router : RouterStep) :
    Gives (p.planned q router) (p.stepsAfter q router (p.planFor q), (p.planFor q).2) := by
  intro session
  rw [run_planned, gives_planStep hsteady q session]

theorem gives_attempt {p : Pipeline} (hsteady : p.services.Steady) (q : Inquiry) :
    Gives (p.attempt q) (p.attempted q) := by
  refine (gives_routeStep hsteady q).bind ?_
  unfold attempted
  cases p.routed q with
  | skipped => exact gives_planned hsteady q _
  | error message => exact gives_planned hsteady q _
  | success intent score =>
    cases intent with
    | chat => exact .pure _
    | query => exact gives_planned hsteady q _

/-- A question is attempted between two readings of the clock. -/
theorem run_process (p : Pipeline) (q : Inquiry) (session : Session) :
    ∃ last, ((p.process q).run session).1 =
      ⟨q.question, q.gold, ((p.attempt q).run session.timed).1.1,
        ((p.attempt q).run session.timed).1.2,
        p.services.clock last - p.services.clock session.clockReadings⟩ :=
  ⟨_, rfl⟩

/-- Outcomes of a question that differ in nothing but the time, which the clock may have measured. -/
def Repeats (p : Pipeline) (q : Inquiry) (o : Outcome) : Prop :=
  ∃ first last, o = p.processed q (p.services.clock last - p.services.clock first)

/-- A question has the same outcome whatever was asked and written before, but for the time. -/
theorem always_repeats {p : Pipeline} (hsteady : p.services.Steady) (q : Inquiry) :
    Always (p.process q) (p.Repeats q) := by
  intro session
  obtain ⟨last, hrun⟩ := run_process p q session
  refine ⟨session.clockReadings, last, ?_⟩
  rw [hrun, gives_attempt hsteady q session.timed]
  rfl

theorem Repeats.merged_tokens {p : Pipeline} {q : Inquiry} {o : Outcome} (h : p.Repeats q o) :
    o.tokens.merged = o.tokens := by
  obtain ⟨first, last, rfl⟩ := h
  exact QueryBench.Pipeline.merged_tokens p q _

end Pipeline

end QueryBench
