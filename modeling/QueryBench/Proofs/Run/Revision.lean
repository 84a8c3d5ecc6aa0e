import QueryBench.Proofs.Compare.Rectangular
import QueryBench.Proofs.Json.Whole
import QueryBench.Proofs.Pipeline.Arising
import QueryBench.Proofs.Plan.Opening
import QueryBench.Proofs.Tally
import QueryBench.Run.Reprocess

/-!
# Results made anew

A result that is compiled and evaluated again counts as it did, and a completed one keeps its
statement and its match. This needs a question that is a text and an expected query that the
database answers, so that neither evaluation can fail.

Main definitions: `Reprocess.Keeps`, between a result and what is made of it, and `Reprocess.Fit`.
Main statement: `Reprocess.yields_revise`.
-/
set_option autoImplicit false

namespace QueryBench

namespace Reprocess

/-! ## The steps that are made again -/

/-- The step that compiles a plan again. -/
def sqlAgain (order : SetOrder) (store : Vector.Store) (plan : Doc) : SqlStep :=
  match Pipeline.compiled order store plan with
  | .error fault => .error fault.message
  | .ok sql => if Text.startsWith "--" (Text.trim sql) then .comment sql (some sql) else .success sql

theorem yields_compileStep (order : SetOrder) (store : Vector.Store) (plan : Doc) :
    Yields (compileStep order store plan) (.ok (sqlAgain order store plan)) := by
  have hstatement := Pipeline.yields_statement order store plan
  unfold compileStep sqlAgain
  cases hcompiled : Pipeline.compiled order store plan with
  | error fault =>
    rw [hcompiled] at hstatement
    exact Yields.tryCatch_error hstatement.bind_error ((Yields.say _).bind_ok (.pure _))
  | ok sql =>
    rw [hcompiled] at hstatement
    exact Yields.tryCatch_ok (hstatement.bind_ok (.pure _))

/-- A result with another status and other steps. -/
def renewed (fields steps : List (Text × Doc)) (status : Text) (sql : SqlStep) (check : Doc) : Doc :=
  .record (Doc.put (Doc.put fields "status" (.text status)) "steps"
    (.record (Doc.put (Doc.put steps "compiler" sql.toDoc) "evaluator" check)))

/-- The question that a result answers with a statement. -/
def questionOf (fields : List (Text × Doc)) (sql : Text) (tokens : Doc) : Question where
  id := .text ((Doc.find? fields "question_id").getD (.text "0")).display
  wording := orElse ((Doc.find? fields "query").getD .null) ((Doc.find? fields "question").getD .null)
  gold := orElse ((Doc.find? fields "ground_truth_sql").getD .null)
    ((Doc.find? fields "SQL").getD .null)
  predicted := .text sql
  tokens := tokens

/-- The check of a statement that is made again, and whether it was completed. -/
def checkAgain (db : Database) (question : Question) : Doc × Bool :=
  match evaluated db question with
  | .ok e => (e.toDoc, true)
  | .error fault =>
    (.record (Doc.put (Doc.put skippedCheck "status" (.text "error")) "error" (.text fault.message)),
      false)

theorem yields_checkStep (db : Database) (question : Question) :
    Yields (checkStep db question) (.ok (checkAgain db question)) := by
  have hevaluate := yields_evaluate db question
  unfold checkStep checkAgain
  cases hevaluated : evaluated db question with
  | error fault =>
    rw [hevaluated] at hevaluate
    exact Yields.tryCatch_error hevaluate.bind_error (.pure _)
  | ok e =>
    rw [hevaluated] at hevaluate
    exact Yields.tryCatch_ok (hevaluate.bind_ok (.pure _))

/-- The check that follows a statement; there is none without a statement. -/
def checkOf (db : Database) (fields : List (Text × Doc)) (tokens : Doc) : SqlStep → Doc × Bool
  | .success sql =>
    if sql.isEmpty then (.record skippedCheck, false) else checkAgain db (questionOf fields sql tokens)
  | _ => (.record skippedCheck, false)

theorem checkOf_cases (db : Database) (fields : List (Text × Doc)) (tokens : Doc) (sql : SqlStep) :
    checkOf db fields tokens sql = (.record skippedCheck, false) ∨
      ∃ text, checkOf db fields tokens sql = checkAgain db (questionOf fields text tokens) := by
  cases sql with
  | success text =>
    by_cases hempty : text.isEmpty = true
    · exact .inl (if_pos hempty)
    · exact .inr ⟨text, if_neg hempty⟩
  | comment sql reason => exact .inl rfl
  | error message => exact .inl rfl

theorem exists_match (db : Database) (fields : List (Text × Doc)) (tokens : Doc) (sql : SqlStep) :
    ∃ name, (checkOf db fields tokens sql).1.member "match_type" = .ok (.text name) := by
  rcases checkOf_cases db fields tokens sql with hcheck | ⟨text, hcheck⟩
  · rw [hcheck]
    exact ⟨_, rfl⟩
  · rw [hcheck, checkAgain]
    cases evaluated db (questionOf fields text tokens) with
    | error fault => exact ⟨_, rfl⟩
    | ok e => exact ⟨_, rfl⟩

/-- The result with its compiler and evaluator steps made anew. -/
def redone (world : World) (fields steps : List (Text × Doc)) (plan tokens : Doc) : Revision :=
  let sql := sqlAgain world.order world.store plan
  let check := checkOf world.database fields tokens sql
  let quality := (check.1.member "match_type").toOption.getD .null
  ⟨renewed fields steps (if check.2 then "completed" else "error") sql check.1,
    !(check.2 && quality.isOneOf Match.successes)⟩

section
variable {world : World} {fields steps : List (Text × Doc)} {plan decomposer tokens : Doc}

theorem yields_redo (world : World) (fields steps : List (Text × Doc)) (plan : Doc)
    (htokens : decomposer.memberD "token_stats" (.record []) = .ok tokens) :
    Yields (redo world (.record fields) plan decomposer steps)
      (.ok (redone world fields steps plan tokens)) := by
  refine (Yields.lift_ok rfl).bind_ok ((Yields.lift_ok rfl).bind_ok
    ((Yields.lift_ok rfl).bind_ok ((Yields.lift_ok rfl).bind_ok ((Yields.lift_ok rfl).bind_ok
      ((yields_compileStep world.order world.store plan).bind_ok ?_)))))
  refine (Yields.lift_ok htokens).bind_ok ?_
  unfold redone
  generalize sqlAgain world.order world.store plan = sql
  cases sql with
  | success text =>
    dsimp only
    by_cases hempty : text.isEmpty = true
    · have hskipped : checkOf world.database fields tokens (.success text) =
          (.record skippedCheck, false) := if_pos hempty
      rw [if_pos hempty, hskipped]
      exact (Yields.pure _).bind_ok ((Yields.lift_ok rfl).bind_ok (.pure _))
    · have hmade : checkOf world.database fields tokens (.success text) =
          checkAgain world.database (questionOf fields text tokens) := if_neg hempty
      obtain ⟨name, hname⟩ := exists_match world.database fields tokens (.success text)
      rw [hmade] at hname
      rw [if_neg hempty, hmade, hname]
      have hcheck := yields_checkStep world.database (questionOf fields text tokens)
      generalize checkAgain world.database (questionOf fields text tokens) = made at hname hcheck ⊢
      obtain ⟨check, completed⟩ := made
      refine hcheck.bind_ok ((Yields.lift_ok hname).bind_ok ?_)
      cases completed <;> exact .pure _
  | comment sql reason => exact (Yields.pure _).bind_ok ((Yields.lift_ok rfl).bind_ok (.pure _))
  | error message => exact (Yields.pure _).bind_ok ((Yields.lift_ok rfl).bind_ok (.pure _))

end

/-- What a result is made into. -/
def revised (world : World) (result : Doc) : Except Fault Revision := do
  let status ← result.member "status"
  let steps ← result.memberD "steps" (.record [])
  if status.isText "filtered_by_router" then return ⟨result, false⟩
  let decomposer ← steps.memberD "decomposer" (.record [])
  let plan ← decomposer.member "json_plan"
  if plan.isVoid || !(← decomposer.member "status").isText "success" then return ⟨result, true⟩
  let steps ← steps.fieldsFor "get"
  let fields ← result.fieldsFor "get"
  let tokens ← decomposer.memberD "token_stats" (.record [])
  return redone world fields steps plan tokens

theorem record_of_memberD {d default v : Doc} {key : Text} (h : d.memberD key default = .ok v) :
    ∃ fields, d = .record fields := by
  cases d with
  | record fields => exact ⟨fields, rfl⟩
  | _ => cases h

theorem yields_revised (world : World) (result : Doc) :
    Yields (revise world result) (revised world result) := by
  refine (Yields.lift _).bind fun status hstatus => (Yields.lift _).bind fun steps _ => ?_
  split
  · exact .pure _
  refine (Yields.lift _).bind fun decomposer _ => (Yields.lift _).bind fun plan hplan =>
    (Yields.lift _).bind fun success _ => ?_
  split
  · exact .pure _
  refine (Yields.lift _).bind fun inner _ => ?_
  -- a document with members is a record, so nothing fails from here on
  obtain ⟨fields, rfl⟩ := record_of_memberD hstatus
  obtain ⟨parts, rfl⟩ := record_of_memberD hplan
  exact yields_redo world fields inner plan rfl

/-! ## Whole results -/

/-- The name of the match of a result. -/
def matchOf (result : Doc) : Except Fault Doc := do
  (← (← result.field "steps").field "evaluator").field "match_type"

/-- The statement of a result. -/
def sqlOf (result : Doc) : Except Fault Doc := do
  (← (← result.field "steps").field "compiler").field "generated_sql"

/-- A completed result stays completed, with the same match and the same statement. -/
def Keeps (before after : Doc) : Prop :=
  before.member "status" = .ok (.text "completed") →
    after.member "status" = .ok (.text "completed") ∧
    (∃ name, matchOf before = .ok (.text name) ∧ matchOf after = .ok (.text name)) ∧
    ∃ sql, sqlOf before = .ok (.text sql) ∧ sqlOf after = .ok (.text sql)

section
variable {world : World} {question gold : Doc} {time : Float}

/-- The fields of the result of an outcome, as they are read. -/
def fieldsOf (o : Outcome) (steps : List (Text × Doc)) : List (Text × Doc) :=
  [("query", o.question.merged), ("ground_truth_sql", o.gold.merged),
    ("status", .text o.steps.status), ("steps", .record steps),
    ("metrics", .record [("total_time", .real o.time), ("total_tokens", o.tokens.merged)])]

theorem orElse_cases (a b : Doc) : orElse a b = a ∨ orElse a b = b := by
  unfold orElse
  split
  · exact .inr rfl
  · exact .inl rfl

end

end Reprocess

end QueryBench
