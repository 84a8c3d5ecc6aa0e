import QueryBench.Evaluation
import QueryBench.Router

/-!
# Steps of a pipeline and its outcome

Main definitions: `RouterStep`, `PlanStep`, `SqlStep`, `CheckStep`, `Outcome`, each with the
document that reports it.
-/
set_option autoImplicit false

namespace QueryBench

inductive RouterStep where
  | skipped
  | success (intent : Intent) (score : Doc)
  | error (message : Text)

def RouterStep.toDoc : RouterStep → Doc
  | skipped =>
    .record [("status", .text "skipped"), ("intent", .null), ("confidence", .real 0.0)]
  | success intent score =>
    .record [("status", .text "success"), ("intent", .text intent.label), ("confidence", score)]
  | error message => .record [("status", .text "error"), ("error", .text message)]

/-- How asking for a plan ended. -/
inductive PlanStatus where
  | pending
  | noTasks
  | unachievable
  | success
  | error
  deriving DecidableEq, Repr

def PlanStatus.label : PlanStatus → Text
  | pending => "pending"
  | noTasks => "failed_no_tasks"
  | unachievable => "unachievable"
  | success => "success"
  | error => "error"

/-- What asking for a plan gave. -/
structure PlanStep where
  status : PlanStatus
  tokens : Doc
  plan : Doc
  error : Option Doc

def PlanStep.pending : PlanStep :=
  ⟨.pending, .int 0, .null, none⟩

/-- The fields of a report with an error, if there is one. -/
def withError (fields : List (Text × Doc)) (error : Option Doc) : Doc :=
  .record (fields ++ (error.map fun e => (("error" : Text), e)).toList)

def PlanStep.toDoc (s : PlanStep) : Doc :=
  withError [("status", .text s.status.label), ("tokens", s.tokens), ("json_plan", s.plan)] s.error

/-- How compiling a plan ended. -/
inductive SqlStep where
  | success (sql : Text)
  /-- The text is a comment instead of a statement. -/
  | comment (sql : Text) (reason : Option Text)
  | error (message : Text)

def SqlStep.toDoc : SqlStep → Doc
  | success sql => .record [("status", .text "success"), ("generated_sql", .text sql)]
  | comment sql reason =>
    withError [("status", .text "error_in_sql"), ("generated_sql", .text sql)] (reason.map Doc.text)
  | error message =>
    .record [("status", .text "error"), ("generated_sql", .null), ("error", .text message)]

/-- How the check against the expected answer ended. -/
inductive CheckStep where
  | pending
  | skipped
  | success (evaluation : Evaluation)
  | error (message : Text)

def CheckStep.toDoc : CheckStep → Doc
  | pending => .record [("status", .text "pending"), ("match_type", .text "N/A")]
  | skipped => .record [("status", .text "skipped_no_gt"), ("match_type", .text "N/A")]
  | success e =>
    .record [("status", .text "success"), ("match_type", .text e.quality.label),
      ("details", e.reasonDoc), ("execution_status", .text e.status)]
  | error message =>
    .record [("status", .text "error"), ("match_type", .text "N/A"), ("error", .text message)]

/-- The steps that were taken. -/
inductive Steps where
  | filtered (score : Doc)
  | planless (router : RouterStep) (plan : PlanStep)
  | sqlless (router : RouterStep) (plan : PlanStep) (sql : SqlStep)
  | completed (router : RouterStep) (plan : PlanStep) (sql : Text) (check : CheckStep)

def Steps.status : Steps → Text
  | filtered _ => "filtered_by_router"
  | planless .. => "decomposer_failure"
  | sqlless .. => "compiler_failure"
  | completed .. => "completed"

def Steps.toDoc : Steps → Doc
  | filtered score => .record [("router", (RouterStep.success .chat score).toDoc)]
  | planless router plan => .record [("router", router.toDoc), ("decomposer", plan.toDoc)]
  | sqlless router plan sql =>
    .record [("router", router.toDoc), ("decomposer", plan.toDoc), ("compiler", sql.toDoc)]
  | completed router plan sql check =>
    .record [("router", router.toDoc), ("decomposer", plan.toDoc),
      ("compiler", (SqlStep.success sql).toDoc), ("evaluator", check.toDoc)]

/-- The outcome of a run, with the number of tokens it used and the seconds it took. -/
structure Outcome where
  question : Doc
  gold : Doc
  steps : Steps
  tokens : Doc
  time : Float

/-- The report of an outcome. -/
def Outcome.toDoc (o : Outcome) : Doc :=
  .record [
    ("query", o.question),
    ("ground_truth_sql", o.gold),
    ("status", .text o.steps.status),
    ("steps", o.steps.toDoc),
    ("metrics", .record [("total_time", .real o.time), ("total_tokens", o.tokens)])]

end QueryBench
